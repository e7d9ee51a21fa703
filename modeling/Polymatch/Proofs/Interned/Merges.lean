import Polymatch.Interned
import Polymatch.Sorting

/-! # Walking two ascending lists

Common elements, differences and disjointness of ascending lists are found by walking both
of them at once. What is found makes up the list of the set that is meant.
-/

namespace Polymatch.SortedSet

open Ranked (rank rank_inj)

variable {α : Type} [Ranked α] {a b x : α} {l s t : List α}

/-- An ascending list with the members of a set is the list of the set. -/
theorem eq_toList {u : SortedSet α} (h : l.Pairwise (rank · < rank ·)) (hmem : ∀ x, x ∈ l ↔ x ∈ u) : l = u.toList :=
  congrArg toList (@ext_mem _ _ ⟨l, h⟩ u hmem)

theorem not_mem_of_rank_lt (h : (b :: t).Pairwise (rank · < rank ·)) (hlt : rank a < rank b) : a ∉ b :: t := by
  intro ha
  rcases List.mem_cons.1 ha with rfl | ha
  · exact Nat.lt_irrefl _ hlt
  · exact Nat.lt_asymm hlt ((List.pairwise_cons.1 h).1 a ha)

/-! ## Common elements -/

theorem mem_commonFrom {rest : List α → List α} (hs : (a :: s).Pairwise (rank · < rank ·))
    (hrest : ∀ {t : List α}, t.Pairwise (rank · < rank ·) → (x ∈ rest t ↔ x ∈ s ∧ x ∈ t))
    (ht : t.Pairwise (rank · < rank ·)) : x ∈ commonFrom a rest t ↔ x ∈ a :: s ∧ x ∈ t := by
  induction t with
  | nil => simp [commonFrom]
  | cons b t ih =>
    have htail := (List.pairwise_cons.1 ht).2
    unfold commonFrom
    split
    · rename_i hlt
      -- the other list is already past the first element
      rw [hrest ht, List.mem_cons (b := a), or_and_right]
      refine (or_iff_right ?_).symm
      rintro ⟨rfl, hx⟩
      exact not_mem_of_rank_lt ht hlt hx
    · split
      · rename_i heq
        obtain rfl := rank_inj heq
        rw [List.mem_cons, hrest htail, List.mem_cons, List.mem_cons, or_and_left]
      · rename_i hnot hne
        rw [ih htail, List.mem_cons (b := b), and_or_left]
        refine (or_iff_right ?_).symm
        rintro ⟨hx, rfl⟩
        exact not_mem_of_rank_lt hs (by omega) hx

theorem mem_common (hs : s.Pairwise (rank · < rank ·)) (ht : t.Pairwise (rank · < rank ·)) :
    x ∈ common s t ↔ x ∈ s ∧ x ∈ t := by
  induction s generalizing t with
  | nil => simp [common]
  | cons a s ih => exact mem_commonFrom hs (fun ht => ih (List.pairwise_cons.1 hs).2 ht) ht

theorem commonFrom_sublist {rest : List α → List α} (hrest : ∀ t, (rest t).Sublist s) (t : List α) :
    (commonFrom a rest t).Sublist (a :: s) := by
  induction t with
  | nil => exact List.nil_sublist _
  | cons b t ih =>
    unfold commonFrom
    split
    · exact (hrest _).cons a
    · split
      · exact (hrest t).cons_cons a
      · exact ih

theorem common_sublist (s t : List α) : (common s t).Sublist s := by
  induction s generalizing t with
  | nil => exact List.Sublist.refl []
  | cons a s ih => exact commonFrom_sublist ih t

theorem common_eq (u v : SortedSet α) : common u.toList v.toList = (u ∩ v).toList := by
  refine eq_toList (u.ascending.sublist (common_sublist ..)) fun x => ?_
  rw [mem_common u.ascending v.ascending, mem_inter]
  exact Iff.rfl

/-! ## Differences -/

theorem mem_sdiff {u v : SortedSet α} : x ∈ u \ v ↔ x ∈ u ∧ x ∉ v := by
  simp only [SDiff.sdiff, diff, mem_filter, Bool.not_eq_true', ← Bool.not_eq_true, contains_iff]

/-- What is dropped in front of `a` is neither `a` nor behind it. -/
theorem mem_dropWhile (hle : rank a ≤ rank x) : x ∈ t.dropWhile (rank · < rank a) ↔ x ∈ t := by
  induction t with
  | nil => exact Iff.rfl
  | cons b t ih =>
    rw [List.dropWhile_cons]
    split
    · rename_i hlt
      rw [ih, List.mem_cons]
      refine (or_iff_right ?_).symm
      rintro rfl
      exact Nat.not_lt.2 hle (of_decide_eq_true hlt)
    · exact Iff.rfl

theorem head?_dropWhile (ht : t.Pairwise (rank · < rank ·)) :
    (t.dropWhile (rank · < rank a)).head?.map rank = some (rank a) ↔ a ∈ t := by
  induction t with
  | nil => simp
  | cons b t ih =>
    rw [List.dropWhile_cons]
    split
    · rename_i hlt
      rw [ih (List.pairwise_cons.1 ht).2, List.mem_cons]
      refine (or_iff_right ?_).symm
      rintro rfl
      exact Nat.lt_irrefl _ (of_decide_eq_true hlt)
    · rename_i hnot
      rw [List.head?_cons, Option.map_some, Option.some_inj]
      constructor
      · intro heq
        exact rank_inj heq ▸ List.mem_cons_self
      · intro ha
        rcases List.mem_cons.1 ha with rfl | ha
        · rfl
        · have hlt := (List.pairwise_cons.1 ht).1 a ha
          exact absurd (decide_eq_true hlt) hnot

theorem mem_without (hs : s.Pairwise (rank · < rank ·)) (ht : t.Pairwise (rank · < rank ·)) :
    x ∈ without s t ↔ x ∈ s ∧ x ∉ t := by
  induction s generalizing t with
  | nil => simp [without]
  | cons a s ih =>
    obtain ⟨ha, hs⟩ := List.pairwise_cons.1 hs
    have hlater := ht.sublist (List.dropWhile_sublist (rank · < rank a))
    have hrest : x ∈ without s (t.dropWhile (rank · < rank a)) ↔ x ∈ s ∧ x ∉ t := by
      rw [ih hs hlater]
      exact and_congr_right fun hx => not_congr (mem_dropWhile (Nat.le_of_lt (ha x hx)))
    unfold without
    dsimp only
    split
    · rename_i hhead
      rw [hrest, List.mem_cons, or_and_right]
      refine (or_iff_right ?_).symm
      rintro ⟨rfl, hx⟩
      exact hx ((head?_dropWhile ht).1 hhead)
    · rename_i hhead
      rw [List.mem_cons, hrest, List.mem_cons, or_and_right]
      refine or_congr_left (Iff.symm (and_iff_left_of_imp ?_))
      rintro rfl hx
      exact hhead ((head?_dropWhile ht).2 hx)

theorem without_sublist (s t : List α) : (without s t).Sublist s := by
  induction s generalizing t with
  | nil => exact List.Sublist.refl []
  | cons a s ih =>
    unfold without
    dsimp only
    split
    · exact (ih _).cons a
    · exact (ih _).cons_cons a

theorem without_eq (u v : SortedSet α) : without u.toList v.toList = (u \ v).toList := by
  refine eq_toList (u.ascending.sublist (without_sublist ..)) fun x => ?_
  rw [mem_without u.ascending v.ascending, mem_sdiff]
  exact Iff.rfl

/-! ## Disjoint lists -/

theorem apartFrom_iff {rest : List α → Bool} (hs : (a :: s).Pairwise (rank · < rank ·))
    (hrest : ∀ {t : List α}, t.Pairwise (rank · < rank ·) → (rest t = true ↔ ∀ x ∈ s, x ∉ t))
    (ht : t.Pairwise (rank · < rank ·)) : apartFrom a rest t = true ↔ ∀ x ∈ a :: s, x ∉ t := by
  induction t with
  | nil => simp [apartFrom]
  | cons b t ih =>
    unfold apartFrom
    split
    · rename_i hlt
      rw [hrest ht, List.forall_mem_cons, and_iff_right (not_mem_of_rank_lt ht hlt)]
    · split
      · rename_i heq
        obtain rfl := rank_inj heq
        refine iff_of_false Bool.false_ne_true fun h => ?_
        exact h a List.mem_cons_self List.mem_cons_self
      · rename_i hnot hne
        have hb : b ∉ a :: s := not_mem_of_rank_lt hs (by omega)
        rw [ih (List.pairwise_cons.1 ht).2]
        refine forall₂_congr fun x hx => ?_
        rw [List.mem_cons, or_iff_right]
        rintro rfl
        exact hb hx

theorem apart_iff (hs : s.Pairwise (rank · < rank ·)) (ht : t.Pairwise (rank · < rank ·)) :
    apart s t = true ↔ ∀ x ∈ s, x ∉ t := by
  induction s generalizing t with
  | nil => simp [apart]
  | cons a s ih => exact apartFrom_iff hs (fun ht => ih (List.pairwise_cons.1 hs).2 ht) ht

theorem disjoint_iff {u v : SortedSet α} : u.disjoint v = true ↔ ∀ x ∈ u, x ∉ v := by
  simp only [disjoint, Bool.not_eq_true', ← Bool.not_eq_true, List.any_eq_true, contains_iff, not_exists, not_and]
  exact Iff.rfl

/-! ## Elements in any order -/

theorem mem_foldl_insert (l : List α) (u : SortedSet α) : x ∈ l.foldl insert u ↔ x ∈ u ∨ x ∈ l := by
  induction l generalizing u with
  | nil => simp
  | cons a l ih => rw [List.foldl_cons, ih, mem_insert, List.mem_cons, or_assoc, or_left_comm]

theorem mem_ofList : x ∈ ofList l ↔ x ∈ l :=
  (mem_foldl_insert l empty).trans (or_iff_right (not_mem_empty x))

theorem eraseReps_mergeSort_eq [BEq α] [LawfulBEq α] (l : List α) :
    (l.mergeSort (rank · ≤ rank ·)).eraseReps = (ofList l).toList := by
  refine eq_toList (eraseReps_ascending (sorted_mergeSort l)) fun x => ?_
  rw [mem_eraseReps, List.mem_mergeSort, mem_ofList]

end Polymatch.SortedSet
