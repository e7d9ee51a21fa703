import Polymatch.SortedSet

/-! # Sorting

Any list becomes the list of a set: its elements are put in ascending order, and of equal
ones, which then stand together, only the first is kept.
-/

namespace Polymatch

open Ranked (rank rank_inj)

variable {α : Type} [BEq α]

/-- Of a run of equal entries, only the first one is kept. -/
theorem eraseReps_loop_sublist (a : α) (l kept : List α) :
    (List.eraseRepsBy.loop (· == ·) a l kept).Sublist (kept.reverse ++ a :: l) := by
  induction l generalizing a kept with
  | nil => simp [List.eraseRepsBy.loop]
  | cons b l ih =>
    rw [List.eraseRepsBy.loop]
    split
    · exact (ih a kept).trans (.append_left (.cons_cons a (List.sublist_cons_self b l)) _)
    · have := ih b (a :: kept)
      rwa [List.reverse_cons, List.append_assoc] at this

theorem eraseReps_sublist (l : List α) : l.eraseReps.Sublist l := by
  cases l with
  | nil => exact List.Sublist.refl []
  | cons a l => exact eraseReps_loop_sublist a l []

variable [LawfulBEq α]

theorem mem_eraseReps_loop {x a : α} {l kept : List α} :
    x ∈ List.eraseRepsBy.loop (· == ·) a l kept ↔ x ∈ kept ∨ x ∈ a :: l := by
  induction l generalizing a kept with
  | nil =>
    rw [List.eraseRepsBy.loop, List.mem_reverse, List.mem_cons, List.mem_singleton]
    exact or_comm
  | cons b l ih =>
    rw [List.eraseRepsBy.loop]
    split
    · rename_i h
      rw [ih, eq_of_beq h]
      simp
    · rw [ih, List.mem_cons, List.mem_cons]
      simp only [List.mem_cons, or_assoc, or_left_comm]

theorem mem_eraseReps {x : α} {l : List α} : x ∈ l.eraseReps ↔ x ∈ l := by
  cases l with
  | nil => exact Iff.rfl
  | cons a l => exact mem_eraseReps_loop.trans (or_iff_right (List.not_mem_nil))

variable [Ranked α]

/-- Where equal entries stand together, no entry is left twice. -/
theorem eraseReps_loop_ascending {a : α} {l kept : List α} (h : (a :: l).Pairwise (rank · ≤ rank ·))
    (hkept : (a :: kept).Pairwise (rank · > rank ·)) :
    (List.eraseRepsBy.loop (· == ·) a l kept).Pairwise (rank · < rank ·) := by
  induction l generalizing a kept with
  | nil =>
    rw [List.eraseRepsBy.loop, List.pairwise_reverse]
    exact hkept
  | cons b l ih =>
    obtain ⟨hle, hrest⟩ := List.pairwise_cons.1 h
    rw [List.eraseRepsBy.loop]
    split
    · rename_i heq
      obtain rfl := eq_of_beq heq
      exact ih hrest hkept
    · rename_i hne
      have hlt : rank a < rank b := by
        refine Nat.lt_of_le_of_ne (hle b List.mem_cons_self) fun heq => ?_
        simp [rank_inj heq] at hne
      refine ih hrest (List.pairwise_cons.2 ⟨List.forall_mem_cons.2 ⟨hlt, fun k hk => ?_⟩, hkept⟩)
      exact Nat.lt_trans ((List.pairwise_cons.1 hkept).1 k hk) hlt

theorem eraseReps_ascending {l : List α} (h : l.Pairwise (rank · ≤ rank ·)) :
    l.eraseReps.Pairwise (rank · < rank ·) := by
  cases l with
  | nil => exact .nil
  | cons a l => exact eraseReps_loop_ascending h (List.pairwise_singleton ..)

theorem sorted_mergeSort {β : Type} [Ranked β] (l : List β) :
    (l.mergeSort (rank · ≤ rank ·)).Pairwise (rank · ≤ rank ·) := by
  simpa only [decide_eq_true_eq] using
    @List.pairwise_mergeSort _ (fun a b : β => decide (rank a ≤ rank b))
      (fun _ _ _ => by simpa only [decide_eq_true_eq] using Nat.le_trans)
      (fun a b => by simpa only [Bool.or_eq_true, decide_eq_true_eq] using Nat.le_total (rank a) (rank b)) l

end Polymatch
