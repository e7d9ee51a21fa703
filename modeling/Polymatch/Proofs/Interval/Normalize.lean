import Mathlib.Data.List.Sort
import Polymatch.Proofs.Interval.Gaps

/-! # Normal forms of interval lists

Sorting by the lower ends and joining what touches keeps the ordinals of a list and
leaves no two intervals with an ordinal in common.
-/

namespace Polymatch.Interval

variable {first : Interval} {l : List Interval} {x : Nat}

theorem not_isEmpty_iff {i : Interval} : (!i.isEmpty) = true ↔ i.lo < i.hi := by
  rw [Bool.not_eq_true', isEmpty_eq_false]

/-- An interval that starts where the first one starts can take the place of the first two. -/
theorem ascending_merged {i : Interval} (h : (first :: i :: l).Pairwise (·.lo ≤ ·.lo)) (hi : Nat) :
    (⟨first.lo, hi⟩ :: l : List Interval).Pairwise (·.lo ≤ ·.lo) := by
  obtain ⟨hfirst, hrest⟩ := List.pairwise_cons.1 h
  exact List.pairwise_cons.2 ⟨fun j hj => hfirst j (List.mem_cons_of_mem i hj), hrest.of_cons⟩

theorem covers_absorb (h : (first :: l).Pairwise (·.lo ≤ ·.lo)) :
    covers (absorb first l) x = true ↔ covers (first :: l) x = true := by
  induction l generalizing first with
  | nil => exact Iff.rfl
  | cons i rest ih =>
    obtain ⟨hfirst, hrest⟩ := List.pairwise_cons.1 h
    rw [absorb]
    split
    · rename_i htouch
      have hlo := hfirst i List.mem_cons_self
      rw [ih (ascending_merged h _), covers_cons, covers_cons, covers_cons, ← or_assoc]
      refine or_congr_left ?_
      simp only
      omega
    · rw [covers_cons, ih hrest, ← covers_cons]

theorem lo_le_of_mem_absorb (h : (first :: l).Pairwise (·.lo ≤ ·.lo)) :
    ∀ i ∈ absorb first l, first.lo ≤ i.lo := by
  induction l generalizing first with
  | nil => simp [absorb]
  | cons j rest ih =>
    obtain ⟨hfirst, hrest⟩ := List.pairwise_cons.1 h
    rw [absorb]
    split
    · exact ih (ascending_merged h _)
    · refine List.forall_mem_cons.2 ⟨Nat.le_refl _, fun i hi => ?_⟩
      exact Nat.le_trans (hfirst j List.mem_cons_self) (ih hrest i hi)

/-- An interval is put behind another only where it starts above its end. -/
theorem absorb_apart (h : (first :: l).Pairwise (·.lo ≤ ·.lo)) : (absorb first l).Pairwise Apart := by
  induction l generalizing first with
  | nil => exact List.pairwise_singleton ..
  | cons j rest ih =>
    obtain ⟨hfirst, hrest⟩ := List.pairwise_cons.1 h
    rw [absorb]
    split
    · exact ih (ascending_merged h _)
    · rename_i hgap
      refine List.pairwise_cons.2 ⟨fun i hi => apart_of_le ?_, ih hrest⟩
      exact Nat.le_trans (Nat.le_of_not_le hgap) (lo_le_of_mem_absorb hrest i hi)

theorem covers_join (h : l.Pairwise (·.lo ≤ ·.lo)) : covers (join l) x = true ↔ covers l x = true := by
  cases l with
  | nil => exact Iff.rfl
  | cons i rest => exact covers_absorb h

theorem join_apart (h : l.Pairwise (·.lo ≤ ·.lo)) : (join l).Pairwise Apart := by
  cases l with
  | nil => exact .nil
  | cons i rest => exact absorb_apart h

theorem mergeSort_ascending (l : List Interval) :
    (l.mergeSort fun i j => i.lo ≤ j.lo).Pairwise (·.lo ≤ ·.lo) := by
  simpa only [decide_eq_true_eq] using
    @List.pairwise_mergeSort _ (fun i j : Interval => decide (i.lo ≤ j.lo))
      (fun i j k => by simpa only [decide_eq_true_eq] using Nat.le_trans)
      (fun i j => by simpa only [Bool.or_eq_true, decide_eq_true_eq] using Nat.le_total i.lo j.lo) l

theorem normalize_apart (l : List Interval) : (normalize l).Pairwise Apart :=
  join_apart (mergeSort_ascending _)

/-- The normal form of a list has the same ordinals. -/
theorem covers_normalize (l : List Interval) (x : Nat) : covers (normalize l) x = covers l x := by
  rw [Bool.eq_iff_iff, normalize, covers_join (mergeSort_ascending _), covers_iff, covers_iff]
  simp only [List.mem_mergeSort, List.mem_filter, not_isEmpty_iff]
  refine exists_congr fun i => ⟨fun h => ⟨h.1.1, h.2⟩, fun h => ⟨⟨h.1, ?_⟩, h.2⟩⟩
  exact Nat.lt_of_le_of_lt h.2.1 h.2.2

end Polymatch.Interval
