import Polymatch.Proofs.Arena.Operations

/-! # Subtraction

What is left of a node after a subtraction has the paths of the node that avoid
the removed nodes. The nodes dealt with so far are remembered; a node that is
still being dealt with never turns up below itself, since no node derives from
itself.
-/

namespace Polymatch.Arena

open Relation (TransGen)

variable {g g' : Arena} {removed : IdSet} {busy : Nat → Prop} {i j r l bound : Nat}
  {visit : Nat → Subtraction → Nat × Subtraction}

/-- What is blocked already, and the removed nodes. -/
def blocking (blocked : Nat → Prop) (removed : IdSet) (i : Nat) : Prop := blocked i ∨ i ∈ removed

theorem Pending.not_blocking {blocked : Nat → Prop} (hp : Pending g blocked) (hm : g.recipe i ≠ .marker none)
    (hnot : i ∉ removed) : ¬ blocking blocked removed i :=
  not_or.2 ⟨hp.not_blocked hm, hnot⟩

/-- Of the open markers that `i` leads to, those that are not removed are open in `h` too. -/
def StillOpen (g : Arena) (removed : IdSet) (h : Arena) (i : Nat) : Prop :=
  ∀ b, g.recipe b = .marker none → Reaches g (fun _ => False) i b → b ∉ removed → h.recipe b = .marker none

theorem StillOpen.operand {h : Arena} (ho : StillOpen g removed h i) (hop : g.Operand i j) :
    StillOpen g removed h j :=
  fun b hb hr => ho b hb (hr.of_operand id hop)

/-- In every arena that `g'` becomes, `r` has the paths of `i` that avoid the removed nodes, as long as
the other markers are not closed. -/
def Without (g : Arena) (removed : IdSet) (g' : Arena) (i r : Nat) : Prop :=
  ∀ (h : Arena) (blocked : Nat → Prop), Settles g' h → Pending g blocked → StillOpen g removed h i →
    ∀ (on? : Option Nat) (l : Nat) (marks : Marks),
      Path h blocked (Stops h blocked on?) r l marks ↔
        Path h (blocking blocked removed) (Stops h (blocking blocked removed) on?) i l marks

theorem Without.grows {g'' : Arena} (h : Without g removed g' i r) (hg : Grows g' g'') :
    Without g removed g'' i r := fun k blocked hs => h k blocked (hg.trans_settles hs)

theorem Without.stops (hw : Without g removed g' i r) {h : Arena} {blocked : Nat → Prop}
    (hs : Settles g' h) (hp : Pending g blocked) (ho : StillOpen g removed h i) (on? : Option Nat) :
    Stops h blocked on? r ↔ Stops h (blocking blocked removed) on? i := by
  cases on? with
  | none => exact Iff.rfl
  | some x =>
    have hpaths := hw h blocked hs hp ho none
    simp only [Stops, Binds, Reaches]
    exact exists_congr fun l => exists_congr fun k =>
      and_congr_left' (exists_congr fun marks => hpaths l marks)

/-- Where a subtraction stands: the arena has grown, and what is remembered is right unless it is
still being dealt with. -/
structure Underway (g : Arena) (removed : IdSet) (busy : Nat → Prop) (s : Subtraction) : Prop where
  wellFormed : s.arena.WellFormed
  grows : Builds g s.arena
  done : ∀ i r, s.done.lookup i = some r →
    busy i ∨ r < s.arena.size ∧ Without g removed s.arena i r

/-- A subtraction has answered what is left of `i`. -/
structure Subtracted (g : Arena) (removed : IdSet) (busy : Nat → Prop) (s : Subtraction) (i : Nat)
    (result : Nat × Subtraction) : Prop where
  underway : Underway g removed busy result.2
  grows : Builds s.arena result.2.arena
  lt : result.1 < result.2.arena.size
  without : Without g removed result.2.arena i result.1

/-- Subtracting from a node of small rank is right. -/
def Subtracts (g : Arena) (removed : IdSet) (bound : Nat)
    (visit : Nat → Subtraction → Nat × Subtraction) : Prop :=
  ∀ (i : Nat) (s : Subtraction) (busy : Nat → Prop), g.rank i < bound → i < g.size →
    Underway g removed busy s → (∀ b, busy b → TransGen g.Operand b i) →
    Subtracted g removed busy s i (visit i s)

/-- A subtraction that answers a node derived in its arena. -/
theorem Subtracted.derived {s s' : Subtraction} {result : Nat × Arena} (hu : Underway g removed busy s')
    (hgrows : Builds s.arena s'.arena) (hr : Grown s'.arena result)
    (hw : Without g removed result.2 i result.1) :
    Subtracted g removed busy s i (result.1, { s' with arena := result.2 }) where
  underway := ⟨hr.wellFormed, hu.grows.trans hr.grows, fun j k hjk =>
    (hu.done j k hjk).imp_right fun ⟨hk, hwk⟩ =>
      ⟨Nat.lt_of_lt_of_le hk hr.grows.size_le, hwk.grows hr.grows.toGrows⟩⟩
  grows := hgrows.trans hr.grows
  lt := hr.lt
  without := hw

theorem subtractEach_spec (hf : Subtracts g removed bound visit) (nodes : List Nat) {s : Subtraction}
    (hu : Underway g removed busy s)
    (hn : ∀ m ∈ nodes, g.rank m < bound ∧ m < g.size ∧ ∀ b, busy b → TransGen g.Operand b m) :
    let result := subtractEach visit nodes s
    Underway g removed busy result.2 ∧ Builds s.arena result.2.arena ∧
      (∀ k ∈ result.1, k < result.2.arena.size) ∧
      List.Forall₂ (Without g removed result.2.arena) nodes result.1 := by
  induction nodes generalizing s with
  | nil =>
    simp only [subtractEach]
    exact ⟨hu, .refl _, by simp, .nil⟩
  | cons m nodes ih =>
    obtain ⟨hrank, hlt, hbusy⟩ := hn m List.mem_cons_self
    have hfirst := hf m s busy hrank hlt hu hbusy
    obtain ⟨hu', hg', hlt', hw'⟩ := ih hfirst.underway fun k hk => hn k (List.mem_cons_of_mem _ hk)
    simp only [subtractEach]
    refine ⟨hu', hfirst.grows.trans hg', ?_, .cons (hfirst.without.grows hg'.toGrows) hw'⟩
    intro k hk
    rcases List.mem_cons.1 hk with rfl | hk
    · exact Nat.lt_of_lt_of_le hfirst.lt hg'.size_le
    · exact hlt' k hk

theorem exists_path_congr {ms rs : List Nat} {P Q R : Nat → Prop} (hR : ∀ m ∈ ms, R m)
    (h : List.Forall₂ (fun m r => R m → (P r ↔ Q m)) ms rs) : (∃ r ∈ rs, P r) ↔ ∃ m ∈ ms, Q m := by
  induction h with
  | nil => simp
  | cons hmr _ ih =>
    obtain ⟨hm, hR⟩ := List.forall_mem_cons.1 hR
    simp only [List.mem_cons, exists_eq_or_imp, hmr hm, ih hR]

section Recipes

variable (hgrows : Builds g g') (hnot : i ∉ removed)
include hgrows hnot

/-- Where a subtraction leaves the operands of a node as they are, the node has lost nothing. -/
theorem Without.self (hi : i < g.size) (hop : ∀ j, g.Operand i j → Without g removed g' j j) : Without g removed g' i i := by
  intro h blocked hs hp ho on? l marks
  have hrecipe : h.recipe i = g.recipe i := by
    by_cases hopen : g.recipe i = .marker none
    · rw [hopen]
      exact ho i hopen ⟨_, .leaf id (.inr hopen)⟩ hnot
    · exact (hgrows.trans_settles hs).recipe_eq i hi hopen
  refine path_congr (or_iff_left hnot).symm (fun j hj => ?_) fun j hj => ?_
  all_goals rw [Operand, hrecipe] at hj
  · exact (hop j hj).stops hs hp (ho.operand hj) on?
  · exact hop j hj h blocked hs hp (ho.operand hj) on?

theorem Without.entry {entry : Nat} (hr : g.recipe i = .marker (some entry)) (hw : Without g removed g' entry r) :
    Without g removed g' i r := by
  intro h blocked hs hp ho on? l marks
  have hk := (hgrows.trans_settles hs).recipe_of hr (by simp) (by simp)
  rw [hw h blocked hs hp (ho.operand (operand_entry hr)) on? l marks, path_entry hk,
    and_iff_right (hp.not_blocking (by simp [hr]) hnot)]

variable (hg : g'.WellFormed)
include hg

theorem Without.unionAll {members : IdSet} {rest : List Nat} (hr : g.recipe i = .union members)
    (hlt : ∀ k ∈ rest, k < g'.size) (hw : List.Forall₂ (Without g removed g') members.toList rest) :
    Without g removed (g'.unionAll rest).2 i (g'.unionAll rest).1 := by
  intro h blocked hs hp ho on? l marks
  have hs' := (grown_unionAll hg hlt).grows.trans_settles hs
  have hk := (hgrows.trans_settles hs').recipe_of hr (by simp) (by simp)
  rw [path_unionAll_iff hg hlt hs (hp.grows hgrows.toGrows), path_union hk,
    and_iff_right (hp.not_blocking (by simp [hr]) hnot)]
  exact exists_path_congr (R := StillOpen g removed h) (fun m hm => ho.operand (operand_member hr hm))
    (hw.imp fun m k hmk hm => hmk h blocked hs' hp hm on? l marks)

theorem Without.annotate {inner : Nat} {added : Marks} (hr : g.recipe i = .annotate inner added)
    (hlt : r < g'.size) (hw : Without g removed g' inner r) :
    Without g removed (g'.annotate r added).2 i (g'.annotate r added).1 := by
  intro h blocked hs hp ho on? l marks
  have hs' := (grown_annotate hg hlt).grows.trans_settles hs
  have hk := (hgrows.trans_settles hs').recipe_of hr (by simp) (by simp)
  rw [path_annotate_iff hg hlt hs (hp.grows hgrows.toGrows), path_annotate hk,
    and_iff_right (hp.not_blocking (by simp [hr]) hnot)]
  exact exists_congr fun before => and_congr_left' (hw h blocked hs' hp (ho.operand (operand_inner hr)) on? l before)

theorem Without.prefer {winner loser w v : Nat} (hr : g.recipe i = .prefer winner loser)
    (hwlt : w < g'.size) (hvlt : v < g'.size) (hw : Without g removed g' winner w)
    (hv : Without g removed g' loser v) :
    Without g removed (g'.prefer w v).2 i (g'.prefer w v).1 := by
  intro h blocked hs hp ho on? l marks
  have hs' := (grown_prefer hg hwlt hvlt).grows.trans_settles hs
  have hk := (hgrows.trans_settles hs').recipe_of hr (by simp) (by simp)
  have howinner := ho.operand (operand_winner hr)
  rw [path_prefer_iff hg hwlt hvlt hs (hp.grows hgrows.toGrows), path_prefer hk,
    and_iff_right (hp.not_blocking (by simp [hr]) hnot), hw.stops hs' hp howinner, hw h blocked hs' hp howinner,
    hv h blocked hs' hp (ho.operand (operand_loser hr))]

end Recipes

/-- A node that the subtraction leaves as it is. -/
theorem Subtracted.kept {s s' : Subtraction} (hu : Underway g removed busy s')
    (hgrows : Builds s.arena s'.arena) (hi : i < g.size) (hnot : i ∉ removed)
    (hop : ∀ j, g.Operand i j → Without g removed s'.arena j j) :
    Subtracted g removed busy s i (i, s') :=
  ⟨hu, hgrows, Nat.lt_of_lt_of_le hi hu.grows.size_le, .self hu.grows hnot hi hop⟩

theorem subtractFrom_spec (hf : Subtracts g removed bound visit) (hg : g.WellFormed) {s : Subtraction}
    (hu : Underway g removed busy s) (hrank : g.rank i ≤ bound) (hi : i < g.size)
    (hbusy : ∀ b, busy b → b = i ∨ TransGen g.Operand b i)
    (hnot : i ∉ removed) : Subtracted g removed busy s i (subtractFrom visit i s) := by
  have hready : ∀ j, g.Operand i j → g.rank j < bound ∧ j < g.size ∧ ∀ b, busy b → TransGen g.Operand b j :=
    fun _ => hg.founded.operand_ready hrank hbusy
  have hvisit : ∀ {s' : Subtraction} (j : Nat), g.Operand i j → Underway g removed busy s' →
      Subtracted g removed busy s' j (visit j s') := by
    intro s' j hop hu'
    obtain ⟨hrank', hlt, hbusy'⟩ := hready j hop
    exact hf j s' busy hrank' hlt hu' hbusy'
  rw [subtractFrom, hu.grows.recipe_eq i hi]
  cases hr : g.recipe i with
  | built => exact .kept hu (.refl _) hi hnot fun j hj => by simp [Operand, hr] at hj
  | marker target? =>
    cases target? with
    | none => exact .kept hu (.refl _) hi hnot fun j hj => by simp [Operand, hr] at hj
    | some entry =>
      have hsub := hvisit entry (operand_entry hr) hu
      dsimp only
      split
      · rename_i heq
        refine .kept hsub.underway hsub.grows hi hnot fun j hj => ?_
        obtain rfl : entry = j := by simpa [Operand, hr] using hj
        simpa only [heq] using hsub.without
      · exact ⟨hsub.underway, hsub.grows, hsub.lt, .entry hsub.underway.grows hnot hr hsub.without⟩
  | union members =>
    obtain ⟨hu', hg', hlt', hw'⟩ := subtractEach_spec hf members.toList hu fun m hm => hready m (operand_member hr hm)
    dsimp only
    split
    · rename_i heq
      refine .kept hu' hg' hi hnot fun j hj => ?_
      rw [Operand, hr] at hj
      rw [heq, List.forall₂_same] at hw'
      exact hw' j hj
    · exact .derived hu' hg' (grown_unionAll hu'.wellFormed hlt')
        (.unionAll hu'.grows hnot hu'.wellFormed hr hlt' hw')
  | annotate inner added =>
    have hsub := hvisit inner (operand_inner hr) hu
    dsimp only
    split
    · rename_i heq
      refine .kept hsub.underway hsub.grows hi hnot fun j hj => ?_
      obtain rfl : j = inner := by simpa [Operand, hr] using hj
      simpa only [heq] using hsub.without
    · exact .derived hsub.underway hsub.grows (grown_annotate hsub.underway.wellFormed hsub.lt)
        (.annotate hsub.underway.grows hnot hsub.underway.wellFormed hr hsub.lt hsub.without)
  | prefer winner loser =>
    have hsub₁ := hvisit winner (operand_winner hr) hu
    have hsub₂ := hvisit loser (operand_loser hr) hsub₁.underway
    have hu' := hsub₂.underway
    have hwlt := Nat.lt_of_lt_of_le hsub₁.lt hsub₂.grows.size_le
    have hwinner := hsub₁.without.grows hsub₂.grows.toGrows
    have hgrows := hsub₁.grows.trans hsub₂.grows
    dsimp only
    split
    · rename_i heq
      rw [Bool.and_eq_true, decide_eq_true_eq, decide_eq_true_eq] at heq
      refine .kept hu' hgrows hi hnot fun j hj => ?_
      rw [Operand, hr] at hj
      rcases hj with rfl | rfl
      · simpa only [heq.1] using hwinner
      · simpa only [heq.2] using hsub₂.without
    · exact .derived hu' hgrows (grown_prefer hu'.wellFormed hwlt hsub₂.lt)
        (.prefer hu'.grows hnot hu'.wellFormed hr hwlt hsub₂.lt hwinner hsub₂.without)

theorem lookup_cons_self (i r : Nat) (done : List (Nat × Nat)) : ((i, r) :: done).lookup i = some r := by
  rw [List.lookup_cons, beq_self_eq_true]

theorem lookup_cons_of_ne (r : Nat) (done : List (Nat × Nat)) (h : j ≠ i) :
    ((i, r) :: done).lookup j = done.lookup j := by
  simp [List.lookup_cons, beq_false_of_ne h]

/-- Nothing is remembered at first. -/
theorem Underway.start (hg : g.WellFormed) : Underway g removed (fun _ => False) ⟨[], g⟩ :=
  ⟨hg, .refl g, fun _ _ h => nomatch h⟩

/-- While its operands are dealt with, a node is busy. -/
theorem Underway.enter {s : Subtraction} (hu : Underway g removed busy s) (i : Nat) :
    Underway g removed (fun b => b = i ∨ busy b) { s with done := (i, i) :: s.done } := by
  refine ⟨hu.wellFormed, hu.grows, fun j r hjr => ?_⟩
  by_cases hj : j = i
  · exact .inl (.inl hj)
  · rw [lookup_cons_of_ne i _ hj] at hjr
    exact (hu.done j r hjr).imp_left .inr

theorem subtractWithin_spec (hg : g.WellFormed) (fuel : Nat) :
    Subtracts g removed fuel (subtractWithin removed fuel) := by
  induction fuel with
  | zero => exact fun i s busy hrank => absurd hrank (Nat.not_lt_zero _)
  | succ fuel ih =>
    intro i s busy hrank hi hu hbusy
    simp only [subtractWithin]
    split
    · rename_i hin
      rw [SortedSet.contains_iff] at hin
      refine ⟨hu, .refl _, hu.wellFormed.nothing_lt, fun h blocked hs hp ho on? l marks => ?_⟩
      refine iff_of_false (path_nothing hu.wellFormed hs) fun hpath => ?_
      have hb : blocking blocked removed i := .inr hin
      cases hpath <;> exact absurd hb ‹_›
    · rename_i hin
      rw [SortedSet.contains_iff] at hin
      split
      · rename_i r hlookup
        rcases hu.done i r hlookup with hb | ⟨hr, hw⟩
        · exact absurd (hbusy i hb) (hg.acyclic i)
        · exact ⟨hu, .refl _, hr, hw⟩
      · have hsub := subtractFrom_spec ih hg (hu.enter i) (Nat.le_of_lt_succ hrank) hi
          (fun b hb => hb.imp_right (hbusy b)) hin
        refine ⟨⟨hsub.underway.wellFormed, hsub.underway.grows, fun j r hjr => ?_⟩, hsub.grows, hsub.lt,
          hsub.without⟩
        by_cases hj : j = i
        · subst hj
          rw [lookup_cons_self] at hjr
          obtain rfl := Option.some.inj hjr
          exact .inr ⟨hsub.lt, hsub.without⟩
        · rw [lookup_cons_of_ne _ _ hj] at hjr
          rcases hsub.underway.done j r hjr with (hji | hb) | hw
          · exact absurd hji hj
          · exact .inl hb
          · exact .inr hw

theorem subtracted_subtract (hg : g.WellFormed) (hi : i < g.size) (r : Nat) :
    Grown g (g.subtract i r) ∧ Without g (g.members r) (g.subtract i r).2 i (g.subtract i r).1 := by
  have hu : Underway g (g.members r) (fun _ => False) ⟨[], g⟩ := .start hg
  have hsub := subtractWithin_spec hg (g.size + 1) i ⟨[], g⟩ _ (Nat.lt_succ_of_lt (hg.rank_lt_size i)) hi
    hu fun _ hb => hb.elim
  exact ⟨⟨hsub.underway.wellFormed, hsub.grows, hsub.lt⟩, hsub.without⟩

end Polymatch.Arena
