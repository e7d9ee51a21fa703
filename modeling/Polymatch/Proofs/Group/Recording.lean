import Mathlib.Data.List.Sort
import Polymatch.Group.Recording
import Polymatch.Proofs.Automaton.Embedding

/-! # Recordings slot by slot

Every slot of a recording changes on its own: the boundaries of the slot among the
marks of an edge are applied to its occurrences. Groups selected from the marks of
an embedded automaton are therefore those that it selects by itself.
-/

namespace Polymatch

/-- Boundaries that take effect in order are known by their members. -/
theorem Boundary.eq_of_ascending {l l' : List Boundary} (hl : l.Pairwise (·.order < ·.order))
    (hl' : l'.Pairwise (·.order < ·.order)) (h : ∀ b, b ∈ l ↔ b ∈ l') : l = l' := by
  have hnodup : ∀ {l : List Boundary}, l.Pairwise (·.order < ·.order) → l.Nodup := fun hl =>
    hl.imp fun hab heq => by simp [heq] at hab
  refine List.Perm.eq_of_pairwise (fun a b _ _ hab hba => ?_) hl hl'
    ((List.perm_ext_iff_of_nodup (hnodup hl) (hnodup hl')).2 h)
  omega

namespace Marks

/-- The boundaries of one slot, in the order in which they take effect. -/
def boundaries (s : Marks) (slot : Nat) : List Boundary :=
  (s.toList.filter (·.slot = slot)).map (·.boundary)

theorem mem_boundaries {s : Marks} {slot : Nat} {b : Boundary} :
    b ∈ s.boundaries slot ↔ ⟨slot, b⟩ ∈ s := by
  simp only [boundaries, List.mem_map, List.mem_filter, decide_eq_true_eq, SortedSet.mem_def]
  constructor
  · rintro ⟨m, ⟨hm, rfl⟩, rfl⟩
    exact hm
  · exact fun hm => ⟨_, ⟨hm, rfl⟩, rfl⟩

theorem boundaries_ascending (s : Marks) (slot : Nat) :
    (s.boundaries slot).Pairwise (·.order < ·.order) := by
  refine List.pairwise_map.2 (((s.ascending.filter _).imp_of_mem ?_))
  intro m n hm hn hlt
  simp only [List.mem_filter, decide_eq_true_eq] at hm hn
  simp only [Ranked.rank, hm.2, hn.2] at hlt
  omega

/-- The same marks on a slot are the same boundaries in the same order. -/
theorem boundaries_eq {s t : Marks} {slot slot' : Nat}
    (h : ∀ b, (⟨slot, b⟩ : Mark) ∈ s ↔ (⟨slot', b⟩ : Mark) ∈ t) :
    s.boundaries slot = t.boundaries slot' :=
  Boundary.eq_of_ascending (s.boundaries_ascending slot) (t.boundaries_ascending slot') fun b => by
    rw [mem_boundaries, mem_boundaries, h]

/-- All marks are on some slots. -/
def On (slots : Nat → Prop) (s : Marks) : Prop := ∀ m ∈ s, slots m.slot

variable {slots : Nat → Prop} {s t : Marks} {slot : Nat}

theorem on_empty (slots : Nat → Prop) : On slots ∅ := fun _ hm => absurd hm (SortedSet.not_mem_empty _)

theorem On.union (hs : On slots s) (ht : On slots t) : On slots (s ∪ t) := fun m hm =>
  (SortedSet.mem_union.1 hm).elim (hs m) (ht m)

theorem on_opening (h : slots slot) : On slots (opening slot) := fun m hm => by
  rwa [SortedSet.mem_singleton.1 hm]

theorem on_closing (h : slots slot) (inclusive : Bool) : On slots (closing slot inclusive) := fun m hm => by
  rwa [SortedSet.mem_singleton.1 hm]

theorem On.boundaries_eq_nil (h : s.On slots) (hslot : ¬ slots slot) : s.boundaries slot = [] :=
  List.eq_nil_iff_forall_not_mem.2 fun _ hb => hslot (h _ (mem_boundaries.1 hb))

end Marks

namespace Recording

variable {r : Recording} {slot other pos : Nat}

theorem occurrences_put (r : Recording) (slot : Nat) (l : List Occurrence) (other : Nat) :
    (r.put slot l).occurrences other = if other = slot then l else r.occurrences other := by
  simp only [put, occurrences]
  split
  · rename_i hlt
    rw [Array.getD_eq_getD_getElem?, Array.getElem?_setIfInBounds, Array.getD_eq_getD_getElem?]
    by_cases h : other = slot
    · subst h
      simp [hlt]
    · simp [h, Ne.symm h]
  · rename_i hge
    have hsize : (r.slots ++ Array.replicate (slot - r.slots.size) []).size = slot := by
      rw [Array.size_append, Array.size_replicate]
      omega
    rw [Array.getD_eq_getD_getElem?, Array.getElem?_push, hsize, Array.getD_eq_getD_getElem?]
    split
    · rfl
    · rw [Array.getElem?_append, Array.getElem?_replicate]
      split
      · rfl
      · split
        · rw [Array.getElem?_eq_none (by omega)]
          rfl
        · rw [Array.getElem?_eq_none (by omega)]

theorem occurrences_foldl_put (marks : List Mark) (r : Recording) (pos slot : Nat) :
    (marks.foldl (fun r m =>
      r.put m.slot (Occurrence.applyBoundary pos (r.occurrences m.slot) m.boundary)) r).occurrences slot =
      ((marks.filter (·.slot = slot)).map (·.boundary)).foldl (Occurrence.applyBoundary pos)
        (r.occurrences slot) := by
  induction marks generalizing r with
  | nil => rfl
  | cons m marks ih =>
    rw [List.foldl_cons, ih, occurrences_put]
    by_cases h : m.slot = slot
    · subst h
      simp
    · simp [h, Ne.symm h]

/-- Taking an edge applies the boundaries of a slot to its occurrences. -/
theorem occurrences_update (r : Recording) (marks : Marks) (pos slot : Nat) :
    (r.update marks pos).occurrences slot =
      (marks.boundaries slot).foldl (Occurrence.applyBoundary pos) (r.occurrences slot) :=
  occurrences_foldl_put marks.toList r pos slot

/-- Take the edges of a whole run that starts at a position. -/
def record (r : Recording) (pos : Nat) : List (Nat × Marks) → Recording
  | [] => r
  | step :: rest => (r.update step.2 pos).record (pos + 1) rest

variable {slots captures : Nat} {small large : List (Nat × Marks)} {r' : Recording}

/-- A run of a larger automaton records the slots of an embedded one as that does. -/
theorem occurrences_record (h : Automaton.SameTrace slots captures small large) (hslot : slot < captures)
    (hr : r'.occurrences (slot + slots) = r.occurrences slot) :
    (r'.record pos large).occurrences (slot + slots) = (r.record pos small).occurrences slot := by
  induction h generalizing r r' pos with
  | nil => exact hr
  | cons hstep _ ih =>
    refine ih ?_
    rw [occurrences_update, occurrences_update, hr,
      Marks.boundaries_eq fun b => hstep.2 slot hslot b]

theorem selectSlot_eq (r : Recording) (exit : Marks) (stop slot : Nat) : r.selectSlot exit stop slot =
    ((((exit.boundaries slot).map exitBoundary).foldl (Occurrence.applyBoundary stop)
      (r.occurrences slot)).reverse.map (·.spanUntil stop)) := by
  rw [selectSlot, Marks.boundaries, List.map_map]
  rfl

/-- A slot without marks has no occurrences. -/
theorem selectSlot_of_on {slots : Nat → Prop} {t : List (Nat × Marks)} {exit : Marks}
    (ht : ∀ step ∈ t, Marks.On slots step.2) (he : exit.On slots) (hslot : ¬ slots slot) (stop : Nat) :
    (record ∅ pos t).selectSlot exit stop slot = [] := by
  have hrecord : ∀ {r : Recording} {pos}, r.occurrences slot = [] → (r.record pos t).occurrences slot = [] := by
    induction t with
    | nil => exact id
    | cons step t ih =>
      obtain ⟨hstep, ht⟩ := List.forall_mem_cons.1 ht
      refine fun hr => ih ht ?_
      rw [occurrences_update, hstep.boundaries_eq_nil hslot, hr]
      rfl
  rw [selectSlot_eq, he.boundaries_eq_nil hslot, hrecord rfl]
  rfl

/-- The groups of an embedded automaton are selected from the larger one as from itself. -/
theorem select_withBase {layout : Layout} {exit exit' : Marks} {span : Span} (hbase : layout.base = 0)
    (hslots : ∀ slot ∈ layout.slots, slot < captures)
    (h : Automaton.SameTrace slots captures small large) (hexit : Automaton.SameMarks slots captures exit exit') :
    (record ∅ pos large).select (layout.withBase slots) exit' span =
      (record ∅ pos small).select layout exit span := by
  have hlist : (layout.withBase slots).slots = layout.slots.map (· + slots) := by
    rw [Layout.slots, Layout.slots, List.map_map]
    refine List.map_congr_left fun label _ => ?_
    simp only [Function.comp, Layout.slotOf, Layout.withBase, hbase]
    omega
  have hempty : ∀ slot, occurrences ∅ slot = [] := fun _ => rfl
  rw [select, select, hlist, List.map_map]
  refine congrArg _ (List.map_congr_left fun slot hslot => ?_)
  have hlt := hslots slot hslot
  rw [Function.comp, selectSlot_eq, selectSlot_eq,
    occurrences_record h hlt ((hempty _).trans (hempty _).symm),
    Marks.boundaries_eq fun b => hexit slot hlt b]

end Recording

end Polymatch
