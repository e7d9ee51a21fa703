import Mathlib.Logic.Relation
import Polymatch.Proofs.Arena.Growth

/-! # Well-formed arenas

The recipes of an arena name nodes that exist, and no node derives from itself.
Adding a node keeps it that way, and so does closing a loop whose entry does not
derive from the marker.
-/

namespace Polymatch

namespace Arena

open Relation (TransGen ReflTransGen)

structure WellFormed (g : Arena) : Prop where
  two_le : 2 ≤ g.size
  recipe_nothing : g.recipe nothing = .built
  content_nothing : g.content? nothing = some .dead
  recipe_terminal : g.recipe terminal = .built
  content_terminal : g.content? terminal = some { Node.dead with accept := .singleton 0 }
  operand_lt : ∀ i j, g.Operand i j → j < g.size
  flat : ∀ i members, g.recipe i = .union members → ∀ m ∈ members, g.Atomic m
  acyclic : ∀ i, ¬ TransGen g.Operand i i
  content : ∀ i n, g.content? i = some n → n.Within g.size
  built : ∀ i < g.size, g.recipe i = .built → g.content? i ≠ none

variable {g g' : Arena} {i j : Nat}

theorem recipe_new (i : Nat) : new.recipe i = .built :=
  match i with
  | 0 => rfl
  | 1 => rfl
  | i + 2 => recipe_of_le (Nat.le_add_left 2 i)

theorem wellFormed_new : new.WellFormed where
  two_le := Nat.le_refl _
  recipe_nothing := rfl
  content_nothing := rfl
  recipe_terminal := rfl
  content_terminal := rfl
  operand_lt i j h := by
    have hi := h.lt_size
    match i, hi with
    | 0, _ => exact h.elim
    | 1, _ => exact h.elim
  flat i members h := by
    have hi := lt_size_of_recipe (g := new) (i := i) (by simp [h])
    match i, hi with
    | 0, _ => cases h
    | 1, _ => cases h
  acyclic i h := by
    obtain ⟨j, hj, -⟩ := TransGen.head'_iff.1 h
    have hi := Operand.lt_size hj
    match i, hi with
    | 0, _ => exact hj.elim
    | 1, _ => exact hj.elim
  content i n h := by
    have hi := lt_size_of_content? (g := new) (i := i) (by simp [h])
    match i, hi with
    | 0, _ =>
      obtain rfl := Option.some.inj h
      exact Node.within_dead _
    | 1, _ =>
      obtain rfl := Option.some.inj h
      exact ⟨fun _ he => (nomatch he), fun _ hi => SortedSet.mem_singleton.1 hi, fun _ => rfl⟩
  built i hi _ := by
    match i, hi with
    | 0, _ => exact Option.some_ne_none _
    | 1, _ => exact Option.some_ne_none _

theorem WellFormed.of_slots (hg : g.WellFormed) (h : g'.slots = g.slots) : g'.WellFormed := by
  obtain ⟨slots, bodies, ambiguous⟩ := g
  obtain ⟨slots', bodies', ambiguous'⟩ := g'
  obtain rfl : slots' = slots := h
  exact ⟨hg.two_le, hg.recipe_nothing, hg.content_nothing, hg.recipe_terminal, hg.content_terminal,
    hg.operand_lt, hg.flat, hg.acyclic, hg.content, hg.built⟩

theorem WellFormed.nothing_lt (h : g.WellFormed) : nothing < g.size :=
  Nat.lt_of_lt_of_le (by decide) h.two_le

theorem WellFormed.terminal_lt (h : g.WellFormed) : terminal < g.size :=
  Nat.lt_of_lt_of_le (by decide) h.two_le

/-- Nodes that an arena has already derive from the same nodes when it grows. -/
theorem Grows.operand_iff (h : Grows g g') (hi : i < g.size) : g'.Operand i j ↔ g.Operand i j := by
  rw [Operand, Operand, h.recipe_eq i hi]

theorem Grows.derives (h : Grows g g') (hij : TransGen g.Operand i j) : TransGen g'.Operand i j :=
  hij.lift id fun _ _ hop => (h.operand_iff hop.lt_size).2 hop

theorem Grows.transGen (hlt : ∀ i j, g.Operand i j → j < g.size) (h : Grows g g') (hi : i < g.size)
    (hij : TransGen g'.Operand i j) : TransGen g.Operand i j := by
  induction hij with
  | single hop => exact .single ((h.operand_iff hi).1 hop)
  | tail _ hop ih =>
    obtain ⟨k, -, hk⟩ := TransGen.tail'_iff.1 ih
    exact ih.tail ((h.operand_iff (hlt _ _ hk)).1 hop)

/-- The slot of a node that derives from nodes of the arena. -/
theorem fits_derived {r : Recipe} (hr : r ≠ .built) (hlt : ∀ j, r.Names j → j < g.size)
    (hflat : ∀ members, r = .union members → ∀ m ∈ members, g.Atomic m) :
    g.Fits { recipe := r, node? := none } :=
  ⟨hlt, hflat, fun hb => absurd hb hr, fun _ hn => nomatch hn⟩

theorem fits_marker (g : Arena) : g.Fits { recipe := .marker none, node? := none } :=
  fits_derived (by simp) (fun _ h => nomatch h) fun _ h => nomatch h

/-- If the recipe of the new node names nodes that were there before, all recipes do. -/
theorem operand_push {s : Slot} (hlt : ∀ i j, g.Operand i j → j < g.size) (hs : ∀ j, s.recipe.Names j → j < g.size)
    (h : (g.push s).2.Operand i j) : j < g.size := by
  rcases push_cases g s h.lt_size with ⟨-, hr, -⟩ | ⟨-, hr, -⟩
  · rw [Operand, hr] at h
    exact hlt i j h
  · rw [Operand, hr] at h
    exact hs j h

theorem acyclic_push {s : Slot} (hlt : ∀ i j, g.Operand i j → j < g.size) (hs : ∀ j, s.recipe.Names j → j < g.size)
    (hacyclic : ∀ i, ¬ TransGen g.Operand i i) (i : Nat) : ¬ TransGen (g.push s).2.Operand i i := by
  intro h
  obtain ⟨k, -, hk⟩ := TransGen.tail'_iff.1 h
  exact hacyclic i ((grows_push g s).transGen hlt (operand_push hlt hs hk) h)

/-- Adding a node whose recipe names nodes of the arena. -/
theorem WellFormed.push (hg : g.WellFormed) {s : Slot} (hfits : g.Fits s) : (g.push s).2.WellFormed := by
  have hgrow := grows_push g s
  have hlt : ∀ i j, (g.push s).2.Operand i j → j < g.size := fun _ _ h => operand_push hg.operand_lt hfits.lt h
  refine ⟨?_, ?_, ?_, ?_, ?_, ?_, ?_, ?_, ?_, ?_⟩
  · exact Nat.le_trans hg.two_le hgrow.size_le
  · exact (recipe_push_of_lt _ _ hg.nothing_lt).trans hg.recipe_nothing
  · exact (content?_push_of_lt _ _ hg.nothing_lt).trans hg.content_nothing
  · exact (recipe_push_of_lt _ _ hg.terminal_lt).trans hg.recipe_terminal
  · exact (content?_push_of_lt _ _ hg.terminal_lt).trans hg.content_terminal
  · exact fun i j h => Nat.lt_of_lt_of_le (hlt i j h) hgrow.size_le
  · intro i members h m hm
    refine hgrow.atomic (hlt i m (by simpa [Operand, h] using hm)) ?_
    rcases push_cases g s (lt_size_of_recipe (i := i) (by simp [h])) with ⟨-, hr, -⟩ | ⟨-, hr, -⟩
    · exact hg.flat i members (hr.symm.trans h) m hm
    · exact hfits.flat members (hr.symm.trans h) m hm
  · exact acyclic_push hg.operand_lt hfits.lt hg.acyclic
  · intro i n hn
    rw [size_push]
    rcases push_cases g s (lt_size_of_content? (i := i) (by simp [hn])) with ⟨-, -, hc⟩ | ⟨-, -, hc⟩
    · exact (hg.content i n (hc.symm.trans hn)).mono (Nat.le_succ _)
    · exact hfits.content n (hc.symm.trans hn)
  · intro i hi h
    rcases push_cases g s hi with ⟨hi, hr, hc⟩ | ⟨-, hr, hc⟩
    · rw [hc]
      exact hg.built i hi (hr.symm.trans h)
    · rw [hc]
      exact hfits.built (hr.symm.trans h)

theorem WellFormed.derive (hg : g.WellFormed) {r : Recipe} (hfits : g.Fits { recipe := r, node? := none }) :
    (g.derive r).2.WellFormed := by
  rcases derive_cases g r with ⟨i, -, -, h⟩ | ⟨-, h⟩
  · rwa [h]
  · rw [h]
    exact hg.push hfits

theorem WellFormed.marker (hg : g.WellFormed) : g.marker.2.WellFormed := hg.push (fits_marker g)

/-- One more derivation step makes a path longer only if the path leads through it. -/
theorem transGen_insert {α : Type} {r r' : α → α → Prop} {m e : α}
    (h : ∀ a b, r' a b → r a b ∨ a = m ∧ b = e) {a b : α} (hab : TransGen r' a b) :
    TransGen r a b ∨ ReflTransGen r a m ∧ ReflTransGen r e b := by
  induction hab with
  | single hop =>
    rcases h _ _ hop with hop | ⟨rfl, rfl⟩
    · exact .inl (.single hop)
    · exact .inr ⟨.refl, .refl⟩
  | tail _ hop ih =>
    rcases h _ _ hop with hop | ⟨rfl, rfl⟩
    · exact ih.imp (·.tail hop) fun ⟨ham, heb⟩ => ⟨ham, heb.tail hop⟩
    · exact .inr ⟨ih.elim TransGen.to_reflTransGen And.left, .refl⟩

theorem operand_setEntry {m entry : Nat} (hm : g.recipe m = .marker none)
    (h : (g.setEntry m entry).Operand i j) : g.Operand i j ∨ i = m ∧ j = entry := by
  by_cases hi : i = m
  · subst hi
    rw [Operand, recipe_setEntry_self _ _ _ (lt_size_of_recipe (by simp [hm]))] at h
    exact .inr ⟨rfl, (Option.some.inj h).symm⟩
  · rw [Operand, recipe_setEntry_of_ne _ _ _ hi] at h
    exact .inl h

theorem acyclic_setEntry {m entry : Nat} (hm : g.recipe m = .marker none)
    (hacyclic : ∀ i, ¬ TransGen g.Operand i i) (hnot : ¬ ReflTransGen g.Operand entry m) (i : Nat) :
    ¬ TransGen (g.setEntry m entry).Operand i i := by
  intro h
  rcases transGen_insert (fun _ _ => operand_setEntry hm) h with h | ⟨him, hei⟩
  · exact hacyclic i h
  · exact hnot (hei.trans him)

/-- Closing a loop whose entry does not derive from the marker. -/
theorem WellFormed.setEntry (hg : g.WellFormed) {m entry : Nat} (hm : g.recipe m = .marker none)
    (hentry : entry < g.size) (hnot : ¬ ReflTransGen g.Operand entry m) :
    (g.setEntry m entry).WellFormed := by
  have hne : ∀ {i}, g.recipe i = .built → i ≠ m := by
    rintro i hi rfl
    simp [hi] at hm
  refine ⟨?_, ?_, ?_, ?_, ?_, ?_, ?_, acyclic_setEntry hm hg.acyclic hnot, ?_, ?_⟩
  · exact Nat.le_trans hg.two_le (Nat.le_of_eq (size_setEntry ..).symm)
  · rw [recipe_setEntry_of_ne _ _ _ (hne hg.recipe_nothing), hg.recipe_nothing]
  · rw [content?_setEntry, hg.content_nothing]
  · rw [recipe_setEntry_of_ne _ _ _ (hne hg.recipe_terminal), hg.recipe_terminal]
  · rw [content?_setEntry, hg.content_terminal]
  · intro i j h
    rw [size_setEntry]
    rcases operand_setEntry hm h with h | ⟨-, rfl⟩
    · exact hg.operand_lt i j h
    · exact hentry
  · intro i members h k hk
    have him : i ≠ m := by
      rintro rfl
      rw [recipe_setEntry_self _ _ _ (lt_size_of_recipe (by simp [hm]))] at h
      cases h
    rw [recipe_setEntry_of_ne _ _ _ him] at h
    exact atomic_setEntry hm (hg.flat i members h k hk)
  · intro i n hn
    rw [content?_setEntry] at hn
    rw [size_setEntry]
    exact hg.content i n hn
  · intro i hi hr
    rw [size_setEntry] at hi
    rw [content?_setEntry]
    by_cases him : i = m
    · subst him
      rw [recipe_setEntry_self _ _ _ hi] at hr
      cases hr
    · rw [recipe_setEntry_of_ne _ _ _ him] at hr
      exact hg.built i hi hr

end Arena

end Polymatch
