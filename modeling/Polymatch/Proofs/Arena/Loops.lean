import Polymatch.Proofs.Arena.Behaviour

/-! # Closing loops

The entry of a loop behaves as its body without the loop's own marker, or as its
tail. It never derives from the marker, which can therefore be closed: the marker
then behaves as the entry does.
-/

namespace Polymatch.Arena

open Relation (ReflTransGen)

variable {g g' h : Arena} {blocked stops : Nat → Prop} {i j l m body once tail : Nat} {marks : Marks}
  {policy : LoopPolicy}

/-- A node that was there before derives from the nodes that it derived from. -/
theorem Grows.reflTransGen (hg : g.WellFormed) (hgrow : Grows g g') (hi : i < g.size)
    (hij : ReflTransGen g'.Operand i j) : ReflTransGen g.Operand i j := by
  rcases Relation.reflTransGen_iff_eq_or_transGen.1 hij with rfl | hij
  · exact .refl
  · exact (hgrow.transGen hg.operand_lt hi hij).to_reflTransGen

theorem isOpenMarker_iff : g.isOpenMarker i = true ↔ g.recipe i = .marker none := by
  rw [isOpenMarker, recipe, Array.getD_eq_getD_getElem?]
  cases g.slots[i]? with
  | none => exact iff_of_false Bool.false_ne_true Recipe.noConfusion
  | some slot => exact decide_eq_true_iff

/-- The node of a loop entry, before the marker is closed. -/
def entryOf (g : Arena) (policy : LoopPolicy) (once tail : Nat) : Nat × Arena :=
  match policy with
  | .plain => g.union once tail
  | .extending => g.prefer once tail
  | .limiting => g.prefer tail once

theorem grown_entryOf (hg : g.WellFormed) (ho : once < g.size) (ht : tail < g.size) :
    Grown g (g.entryOf policy once tail) := by
  cases policy with
  | plain => exact grown_union hg ho ht
  | extending => exact grown_prefer hg ho ht
  | limiting => exact grown_prefer hg ht ho

theorem behaviour_entryOf (hg : g.WellFormed) (ho : once < g.size) (ht : tail < g.size)
    (hs : Settles (g.entryOf policy once tail).2 h) (hp : Pending g blocked) :
    behaviour h blocked (g.entryOf policy once tail).1 =
      .choose policy (behaviour h blocked once) (behaviour h blocked tail) := by
  cases policy with
  | plain => exact behaviour_union hg ho ht hs hp
  | extending => exact behaviour_prefer hg ho ht hs hp
  | limiting => exact behaviour_prefer hg ht ho hs hp

theorem closeLoop_eq (g : Arena) (m once tail : Nat) (policy : LoopPolicy) :
    g.closeLoop m once tail policy =
      let r := (g.subtract once m).2.entryOf policy (g.subtract once m).1 tail
      (r.1, { r.2.setEntry m r.1 with bodies := (m, once) :: r.2.bodies }) := by
  rw [closeLoop]
  generalize g.subtract once m = r
  cases policy <;> rfl

/-- A loop has been closed: the marker is pointed at an entry that is the body without the marker, or
the tail. -/
structure Closed (g : Arena) (m body tail : Nat) (policy : LoopPolicy) (result : Nat × Arena) : Prop where
  wellFormed : result.2.WellFormed
  settles : Settles g result.2
  settles_once : Settles (g.subtract body m).2 result.2
  others : ∀ i < g.size, i ≠ m → result.2.recipe i = g.recipe i
  fresh : ∀ i, g.size ≤ i → result.2.recipe i ≠ .marker none
  blank : Blank g → Blank result.2
  entry_lt : result.1 < result.2.size
  once_lt : (g.subtract body m).1 < result.2.size
  marker : result.2.recipe m = .marker (some result.1)
  body_eq : result.2.bodies.lookup m = some body
  bodies : ∀ i < g.size, i ≠ m → result.2.bodies.lookup i = g.bodies.lookup i
  writes : Writes g result.2
  behaviour : ∀ {h : Arena} {blocked : Nat → Prop}, Settles result.2 h → Pending g blocked →
    Arena.behaviour h blocked result.1 =
      .choose policy (Arena.behaviour h blocked (g.subtract body m).1) (Arena.behaviour h blocked tail)

theorem Closed.unroll {result : Nat × Arena} (h : Closed g m body tail policy result) :
    result.2.unroll m = body := by
  rw [Arena.unroll, h.body_eq, Option.getD_some]

/-- Without the marker, the body does not derive from it. -/
theorem not_derives_subtract (hg : g.WellFormed) (hm : g.recipe m = .marker none) (hbody : body < g.size)
    (hgrow : Grows (g.subtract body m).2 g') : ¬ ReflTransGen g'.Operand (g.subtract body m).1 m := by
  obtain ⟨hsub, hwithout⟩ := subtracted_subtract hg hbody m
  rw [members_open hg hm] at hwithout
  have hgrow' : Grows g g' := hsub.grows.toGrows.trans hgrow
  have hopen : ∀ b, g.recipe b = .marker none → g'.recipe b = .marker none := fun b hb =>
    (hgrow'.recipe_eq b (lt_size_of_recipe (by simp [hb]))).trans hb
  intro hreach
  obtain ⟨marks, hp⟩ := reaches_of_operands (.inr (hopen m hm)) hreach
  have hp := (hwithout g' _ hgrow.settles (pending_none g) (fun b hb _ _ => hopen b hb) none m marks).1 hp
  exact hp.not_blocked (.inr (SortedSet.mem_singleton.2 rfl))

theorem not_derives_entryOf (hg : g.WellFormed) (ho : once < g.size) (ht : tail < g.size)
    (hm : g.recipe m = .marker none) (honce : ¬ ReflTransGen g.Operand once m)
    (htail : ¬ ReflTransGen g.Operand tail m) :
    ¬ ReflTransGen (g.entryOf policy once tail).2.Operand (g.entryOf policy once tail).1 m := by
  have hentry : Grown g (g.entryOf policy once tail) := grown_entryOf hg ho ht
  have hopen := (hentry.grows.recipe_eq m (lt_size_of_recipe (by simp [hm]))).trans hm
  intro hreach
  have hopens : (Arena.behaviour (g.entryOf policy once tail).2 (fun _ => False)
      (g.entryOf policy once tail).1).opens m := ⟨hopen, reaches_of_operands (.inr hopen) hreach⟩
  rw [behaviour_entryOf hg ho ht (.refl _) (pending_none g), Behaviour.opens_choose] at hopens
  rcases hopens with ⟨-, marks, hp⟩ | ⟨-, marks, hp⟩
  · exact honce (hentry.grows.reflTransGen hg ho hp.derives)
  · exact htail (hentry.grows.reflTransGen hg ht hp.derives)

/-- A loop can be closed if its tail does not derive from the marker. -/
theorem closed_closeLoop (hg : g.WellFormed) (hm : g.recipe m = .marker none) (hbody : body < g.size)
    (ht : tail < g.size) (hnot : ¬ ReflTransGen g.Operand tail m) :
    Closed g m body tail policy (g.closeLoop m body tail policy) := by
  have hmlt : m < g.size := lt_size_of_recipe (by simp [hm])
  obtain ⟨hsub, -⟩ := subtracted_subtract hg hbody m
  have honce := not_derives_subtract hg hm hbody (.refl _)
  have ht₁ : tail < (g.subtract body m).2.size := Nat.lt_of_lt_of_le ht hsub.grows.size_le
  have hm₁ : (g.subtract body m).2.recipe m = .marker none := (hsub.grows.recipe_eq m hmlt).trans hm
  have hnot₁ : ¬ ReflTransGen (g.subtract body m).2.Operand tail m := fun h =>
    hnot (hsub.grows.reflTransGen hg ht h)
  have hfree := @not_derives_entryOf _ m _ tail policy hsub.wellFormed hsub.lt ht₁ hm₁ honce hnot₁
  have hentry := @grown_entryOf _ _ tail policy hsub.wellFormed hsub.lt ht₁
  have hbehaviour := fun h blocked => @behaviour_entryOf _ h blocked _ tail policy hsub.wellFormed hsub.lt ht₁
  rw [closeLoop_eq]
  dsimp only
  generalize (g.subtract body m).2.entryOf policy (g.subtract body m).1 tail = r at *
  obtain ⟨entry, g₂⟩ := r
  have hgrow : Builds g g₂ := hsub.grows.trans hentry.grows
  have hm₂ : g₂.recipe m = .marker none := (hgrow.recipe_eq m hmlt).trans hm
  have hsettles : Settles g₂ { g₂.setEntry m entry with bodies := (m, body) :: g₂.bodies } :=
    (settles_setEntry g₂ m entry hm₂).trans (Grows.settles (grows_of_slots rfl))
  refine ⟨?_, hgrow.trans_settles hsettles, hentry.grows.trans_settles hsettles, ?_, ?_, ?_, ?_, ?_, ?_,
    ?_, ?_, ?_, ?_⟩
  · exact (hentry.wellFormed.setEntry hm₂ hentry.lt hfree).of_slots rfl
  · exact fun i hi him => (recipe_setEntry_of_ne g₂ m entry him).trans (hgrow.recipe_eq i hi)
  · intro i hi
    have him : i ≠ m := Nat.ne_of_gt (Nat.lt_of_lt_of_le hmlt hi)
    exact fun h => hgrow.closed i hi ((recipe_setEntry_of_ne g₂ m entry him).symm.trans h)
  · exact fun hb => (hgrow.blank hb).setEntry hm₂
  · exact Nat.lt_of_lt_of_le hentry.lt hsettles.size_le
  · exact Nat.lt_of_lt_of_le hsub.lt (hentry.grows.trans_settles hsettles).size_le
  · exact recipe_setEntry_self g₂ m entry (Nat.lt_of_lt_of_le hmlt hgrow.size_le)
  · exact lookup_cons_self m body g₂.bodies
  · exact fun i hi him => (lookup_cons_of_ne body g₂.bodies him).trans (hgrow.bodies i hi)
  · exact (hgrow.writes.tail (.close hm₂ hentry.lt)).tail (.aside rfl)
  · exact fun hs hp => hbehaviour _ _ (hsettles.trans hs) (hp.grows hsub.grows.toGrows)

/-- If the body leads to no other open marker, the entry behaves as the body without the marker. -/
theorem behaviour_closeLoop (hg : g.WellFormed) (hm : g.recipe m = .marker none) (hbody : body < g.size)
    (hclosed : Closed g m body tail policy (g.closeLoop m body tail policy))
    (honly : ∀ b, g.recipe b = .marker none → Reaches g (fun _ => False) body b → b = m)
    (hs : Settles (g.closeLoop m body tail policy).2 h) (hp : Pending g blocked) :
    behaviour h blocked (g.closeLoop m body tail policy).1 =
      .choose policy (behaviour h (blocking blocked (.singleton m)) body) (behaviour h blocked tail) := by
  obtain ⟨hsub, hwithout⟩ := subtracted_subtract hg hbody m
  rw [members_open hg hm] at hwithout
  rw [hclosed.behaviour hs hp]
  congr 1
  refine behaviour_congr (hwithout h blocked (hclosed.settles_once.trans hs) hp fun b hb hr hne => ?_)
  exact absurd (SortedSet.mem_singleton.2 (honly b hb hr)) hne

end Polymatch.Arena
