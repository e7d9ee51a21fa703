import Polymatch.Sorting

/-! # Counts of repetitions

The numbers of copies that a repetition allows form an ascending list. Whether a
number is one of them is decided by halving the list until one entry is left, so
in a list that does not ascend a number may be missed.
-/

namespace Polymatch.Pattern

/-- Ascending counts without repetition; no count at all means none. -/
def normalCounts (counts : List Nat) : List Nat :=
  match (counts.mergeSort (· ≤ ·)).eraseReps with
  | [] => [0]
  | sorted => sorted

/-- The part of some counts where `n` is to be looked for: from the middle on, unless the count
there is above `n`. -/
def halve (n : Nat) (counts : List Nat) : List Nat :=
  let middle := counts.length / 2
  if counts.getD middle 0 ≤ n then counts.drop middle else counts.take (counts.length - middle)

def narrow (n : Nat) : Nat → List Nat → List Nat
  | 0, counts => counts
  | rounds + 1, counts => narrow n rounds (halve n counts)

/-- Whether halving ends at `n`. -/
def hasCount (counts : List Nat) (n : Nat) : Bool :=
  (narrow n counts.length counts).head? == some n

theorem length_halve (n : Nat) (counts : List Nat) :
    (halve n counts).length = counts.length - counts.length / 2 := by
  simp only [halve]
  split
  · exact List.length_drop
  · rw [List.length_take]
    omega

theorem halve_ascending (n : Nat) {counts : List Nat} (h : counts.Pairwise (· ≤ ·)) :
    (halve n counts).Pairwise (· ≤ ·) := by
  simp only [halve]
  split
  · exact h.sublist (List.drop_sublist ..)
  · exact h.sublist (List.take_sublist ..)

theorem mem_halve {n : Nat} {counts : List Nat} (h : counts.Pairwise (· ≤ ·)) :
    n ∈ halve n counts ↔ n ∈ counts := by
  rw [List.pairwise_iff_getElem] at h
  simp only [halve]
  split
  · rename_i hn
    refine ⟨List.mem_of_mem_drop, fun hm => ?_⟩
    obtain ⟨i, hi, rfl⟩ := List.mem_iff_getElem.1 hm
    have hmid : counts.length / 2 < counts.length := by omega
    rw [List.getD_eq_getElem?_getD, List.getElem?_eq_getElem hmid, Option.getD_some] at hn
    rcases Nat.lt_or_ge i (counts.length / 2) with hlt | hle
    · -- the same count stands in the middle again
      have heq : counts[i] = counts[counts.length / 2] := Nat.le_antisymm (h i _ hi hmid hlt) hn
      exact List.mem_iff_getElem.2 ⟨0, by rw [List.length_drop]; omega, by
        rw [List.getElem_drop, heq]; congr 1⟩
    · exact List.mem_iff_getElem.2 ⟨i - counts.length / 2, by rw [List.length_drop]; omega, by
        rw [List.getElem_drop]; congr 1; omega⟩
  · rename_i hn
    refine ⟨List.mem_of_mem_take, fun hm => ?_⟩
    obtain ⟨i, hi, rfl⟩ := List.mem_iff_getElem.1 hm
    have hmid : counts.length / 2 < counts.length := by omega
    rw [List.getD_eq_getElem?_getD, List.getElem?_eq_getElem hmid, Option.getD_some] at hn
    have hlt : i < counts.length - counts.length / 2 := by
      refine Nat.lt_of_not_le fun hle => ?_
      rcases Nat.lt_or_eq_of_le (Nat.le_trans (by omega : counts.length / 2 ≤ _) hle) with hl | rfl
      · have := h _ i hmid hi hl
        omega
      · omega
    exact List.mem_iff_getElem.2 ⟨i, by rw [List.length_take]; omega, List.getElem_take⟩

theorem mem_narrow {n : Nat} (rounds : Nat) {counts : List Nat} (h : counts.Pairwise (· ≤ ·)) :
    n ∈ narrow n rounds counts ↔ n ∈ counts := by
  induction rounds generalizing counts with
  | zero => exact Iff.rfl
  | succ rounds ih => exact (ih (halve_ascending n h)).trans (mem_halve h)

theorem length_narrow {n rounds : Nat} {counts : List Nat} (h : counts.length ≤ rounds + 1) :
    (narrow n rounds counts).length ≤ 1 := by
  induction rounds generalizing counts with
  | zero => exact h
  | succ rounds ih =>
    refine ih ?_
    rw [length_halve]
    omega

/-- Among ascending counts, every count is found. -/
theorem hasCount_iff {n : Nat} {counts : List Nat} (h : counts.Pairwise (· ≤ ·)) :
    hasCount counts n = true ↔ n ∈ counts := by
  rw [hasCount, ← mem_narrow counts.length h]
  have hl := length_narrow (n := n) (Nat.le_succ counts.length)
  match narrow n counts.length counts, hl with
  | [], _ => simp
  | [a], _ =>
    simp only [List.head?_cons, beq_iff_eq, Option.some.injEq, List.mem_singleton]
    exact eq_comm

theorem sorted_counts (counts : List Nat) : (counts.mergeSort (· ≤ ·)).Pairwise (· ≤ ·) := sorted_mergeSort counts

theorem normalCounts_ne_nil (counts : List Nat) : normalCounts counts ≠ [] := by
  rw [normalCounts]
  split
  · exact List.cons_ne_nil 0 []
  · assumption

theorem normalCounts_ascending (counts : List Nat) : (normalCounts counts).Pairwise (· ≤ ·) := by
  rw [normalCounts]
  split
  · exact List.pairwise_singleton ..
  · exact (sorted_counts counts).sublist (eraseReps_sublist _)

theorem normalCounts_strictly_ascending (counts : List Nat) : (normalCounts counts).Pairwise (· < ·) := by
  rw [normalCounts]
  split
  · exact List.pairwise_singleton ..
  · exact eraseReps_ascending (sorted_counts counts)

/-- If there are counts at all, the normal form has the same ones. -/
theorem mem_normalCounts {n : Nat} {counts : List Nat} (h : counts ≠ []) :
    n ∈ normalCounts counts ↔ n ∈ counts := by
  rw [normalCounts]
  split
  · rename_i hnil
    obtain ⟨m, hm⟩ := List.exists_mem_of_ne_nil counts h
    have hmem : m ∈ (counts.mergeSort (· ≤ ·)).eraseReps := mem_eraseReps.2 (List.mem_mergeSort.2 hm)
    rw [hnil] at hmem
    exact nomatch hmem
  · exact mem_eraseReps.trans List.mem_mergeSort

end Polymatch.Pattern
