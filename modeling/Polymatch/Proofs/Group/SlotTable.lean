import Mathlib.Data.List.Duplicate
import Mathlib.Data.List.GetD
import Polymatch.Group.SlotTable
import Polymatch.Proofs.Pattern.Layouts
import Polymatch.Proofs.Pattern.Orderly
import Polymatch.Proofs.Pattern.Recognition

/-! # Slots by position and by label

A table of slots is made for distinct labels only, and fails with the least label that occurs twice
otherwise. The slots are the numbers from the base on, in the order of the labels, and they are the
same whether they are looked up by position, by label or in the order of declaration. Counting the
smaller labels finds the same slots as turning the sorted positions round.
-/

namespace Polymatch

namespace Layout

variable {labels : List Label} {l : Layout} {label : Label} {i k : Nat}

theorem sorted_ascending (h : labels.Nodup) : (sorted labels).Pairwise (· < ·) :=
  ((sorted_pairwise labels).and ((sorted_perm labels).nodup_iff.2 h)).imp
    fun ⟨hle, hne⟩ => lt_of_le_of_ne (not_lt.1 hle) hne

end Layout

namespace SlotTable

variable {labels : List Label} {ranks : Array Nat} {places : List (Nat × Nat)} {i k : Nat}

theorem map_range_getD (labels : List Label) : (List.range labels.length).map (labels.getD · []) = labels := by
  refine List.ext_getElem (by rw [List.length_map, List.length_range]) fun i _ hi => ?_
  rw [List.getElem_map, List.getElem_range, List.getD_eq_getElem labels [] hi]

/-- The labels of the sorted positions are the sorted labels. -/
theorem map_order (labels : List Label) :
    (order labels).map (labels.getD · []) = Layout.sorted labels := by
  rw [order, Layout.sorted, List.map_mergeSort (s := fun a b => !decide (b < a)) fun _ _ _ _ => rfl, map_range_getD]

/-- Two neighbours clash where the labels themselves have two equal neighbours in their order. -/
theorem map_clash? (labels : List Label) :
    (clash? labels).map (fun p => labels.getD p.1 []) = Layout.duplicate? labels := by
  rw [Layout.duplicate?_eq, ← map_order, ← List.map_tail, List.zip_map, List.find?_map, Option.map_map]
  rfl

theorem ofLabels_of_nodup (h : labels.Nodup) :
    ofLabels labels = .ok ⟨labels, ranked labels, 0, size_ranked labels⟩ := by
  have hclash : clash? labels = none := by
    rw [← Option.map_eq_none_iff, map_clash?, Layout.duplicate?_eq_none_iff.2 h]
  rw [ofLabels, hclash]

end SlotTable

end Polymatch
