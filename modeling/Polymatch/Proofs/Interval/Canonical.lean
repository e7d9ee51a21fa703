import Polymatch.Proofs.Interval.Normalize

/-! # Canonical classes

The normal form of a list of intervals ascends, no interval of it is empty, and
neighbours do not touch. What such a list leaves free of a window has that form too.
-/

namespace Polymatch.Interval

variable {first i : Interval} {l : List Interval} {lo limit bound : Nat}

/-- Intervals below a limit that ascend with a gap between neighbours; none is empty. -/
structure Canonical (limit : Nat) (l : List Interval) : Prop where
  ascending : l.Pairwise (·.hi < ·.lo)
  nonempty : ∀ i ∈ l, i.lo < i.hi
  le_limit : ∀ i ∈ l, i.hi ≤ limit

namespace Canonical

theorem nil (limit : Nat) : Canonical limit [] :=
  ⟨.nil, List.forall_mem_nil _, List.forall_mem_nil _⟩

theorem singleton (hi : i.lo < i.hi) (hle : i.hi ≤ limit) : Canonical limit [i] :=
  ⟨List.pairwise_singleton .., List.forall_mem_singleton.2 hi, List.forall_mem_singleton.2 hle⟩

theorem cons (h : Canonical limit l) (hi : i.lo < i.hi) (hle : i.hi ≤ limit) (hgap : ∀ j ∈ l, i.hi < j.lo) :
    Canonical limit (i :: l) :=
  ⟨List.pairwise_cons.2 ⟨hgap, h.ascending⟩, List.forall_mem_cons.2 ⟨hi, h.nonempty⟩,
    List.forall_mem_cons.2 ⟨hle, h.le_limit⟩⟩

theorem apart (h : Canonical limit l) : l.Pairwise Apart :=
  h.ascending.imp fun hij => apart_of_le (Nat.le_of_lt hij)

end Canonical

/-- An interval is joined to the one in front of it unless there is a gap between them. -/
theorem canonical_absorb (h : (first :: l).Pairwise (·.lo ≤ ·.lo)) (hn : ∀ i ∈ first :: l, i.lo < i.hi)
    (hle : ∀ i ∈ first :: l, i.hi ≤ limit) : Canonical limit (absorb first l) := by
  induction l generalizing first with
  | nil => exact .singleton (hn first List.mem_cons_self) (hle first List.mem_cons_self)
  | cons i rest ih =>
    rw [absorb]
    simp only [List.forall_mem_cons] at hn hle
    split
    · refine ih (ascending_merged h _) (List.forall_mem_cons.2 ⟨?_, hn.2.2⟩)
        (List.forall_mem_cons.2 ⟨Nat.max_le.2 ⟨hle.1, hle.2.1⟩, hle.2.2⟩)
      exact Nat.lt_of_lt_of_le hn.1 (Nat.le_max_left ..)
    · rename_i hgap
      have hrest := (List.pairwise_cons.1 h).2
      refine (ih hrest (List.forall_mem_cons.2 hn.2) (List.forall_mem_cons.2 hle.2)).cons hn.1 hle.1 ?_
      exact fun j hj => Nat.lt_of_lt_of_le (Nat.lt_of_not_le hgap) (lo_le_of_mem_absorb hrest j hj)

theorem canonical_join (h : l.Pairwise (·.lo ≤ ·.lo)) (hn : ∀ i ∈ l, i.lo < i.hi)
    (hle : ∀ i ∈ l, i.hi ≤ limit) : Canonical limit (join l) := by
  cases l with
  | nil => exact .nil limit
  | cons i rest => exact canonical_absorb h hn hle

theorem canonical_normalize (hle : ∀ i ∈ l, i.hi ≤ limit) : Canonical limit (normalize l) := by
  have hmem : ∀ {i}, i ∈ (l.filter (!·.isEmpty)).mergeSort (·.lo ≤ ·.lo) → i ∈ l ∧ i.lo < i.hi := by
    intro i hi
    rwa [List.mem_mergeSort, List.mem_filter, not_isEmpty_iff] at hi
  exact canonical_join (mergeSort_ascending _) (fun i hi => (hmem hi).2) fun i hi => hle i (hmem hi).1

theorem canonical_gaps (h : Canonical bound l) : Canonical limit (gaps lo limit l) := by
  induction l generalizing lo with
  | nil =>
    rw [gaps]
    split
    · exact .singleton ‹_› (Nat.le_refl _)
    · exact .nil limit
  | cons i rest ih =>
    have hi := h.nonempty i List.mem_cons_self
    have hrest : Canonical limit (gaps (max lo i.hi) limit rest) :=
      ih ⟨h.ascending.of_cons, fun j hj => h.nonempty j (List.mem_cons_of_mem i hj),
        fun j hj => h.le_limit j (List.mem_cons_of_mem i hj)⟩
    rw [gaps]
    split
    · -- the interval lies between the piece in front of it and those behind it
      refine hrest.cons ‹_› (Nat.min_le_right ..) fun j hj => ?_
      have hlo := (bounds_of_mem_gaps hj).1
      simp only
      omega
    · exact hrest

theorem canonical_complement (h : Canonical bound l) (limit : Nat) : Canonical limit (complement l limit) :=
  canonical_gaps h

end Polymatch.Interval
