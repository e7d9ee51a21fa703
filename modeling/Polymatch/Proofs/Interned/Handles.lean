import Mathlib.Data.List.Forall2
import Mathlib.Data.List.Nodup
import Polymatch.Proofs.Interned.Merges

/-! # Operations on handles

A table only grows, so a handle stands for the same set for good, and as no content is
kept twice, a set has one handle only. Every operation answers the handle of the set that
is meant, whether it takes a shortcut or not.
-/

namespace Polymatch

open Ranked (rank)
open Movable (number moved)

namespace Interner

variable {β : Type} [DecidableEq β] {i : Interner β}

theorem suffix_intern (i : Interner β) (b : β) : i.values <:+ (i.intern b).values := by
  unfold intern
  split
  · exact List.suffix_refl _
  · exact List.suffix_cons _ _

theorem nodup_intern (hn : i.values.Nodup) (b : β) : (i.intern b).values.Nodup := by
  unfold intern
  split
  · exact hn
  · rename_i hnew
    exact List.nodup_cons.2 ⟨fun hb => hnew (List.contains_iff_mem.2 hb), hn⟩

theorem getElem?_place (i : Interner β) (b : β) : (i.intern b).values.reverse[(i.intern b).place b]? = some b := by
  have hb : b ∈ (i.intern b).values := by
    unfold intern
    split
    · rename_i hkept
      exact List.contains_iff_mem.1 hkept
    · exact List.mem_cons_self
  exact List.getElem?_idxOf (List.mem_reverse.2 hb)

end Interner

namespace SortedSet

variable {α : Type} [Movable α] {s u : SortedSet α}

/-- Every number moved up. -/
def movedUp (s : SortedSet α) (offset : Nat) : SortedSet α := s.map (moved offset) (Movable.rank_moved offset)

theorem mem_movedUp {offset : Nat} {x : α} : x ∈ s.movedUp offset ↔ ∃ y ∈ s, moved offset y = x := List.mem_map

theorem movedUp_zero (s : SortedSet α) : s.movedUp 0 = s := by
  apply ext_toList
  exact (List.map_congr_left fun x _ => Movable.moved_zero x).trans (List.map_id _)

/-- All numbers have 32 bits. -/
def Fits (s : SortedSet α) : Prop := ∀ x ∈ s, number x < UInt32.size

instance (s : SortedSet α) : Decidable s.Fits := inferInstanceAs (Decidable (∀ x ∈ s.toList, number x < UInt32.size))

/-- If a union fits, so does what has been added. -/
theorem fits_right (h : (s ∪ u).Fits) : u.Fits := fun x hx => h x (mem_union.2 (.inr hx))

theorem union_sdiff_eq_iff : (s ∪ u) \ u = s ↔ ∀ x ∈ s, x ∉ u := by
  constructor
  · intro heq x hx
    rw [← heq] at hx
    exact (mem_sdiff.1 hx).2
  · intro hapart
    refine ext_mem fun x => ?_
    rw [mem_sdiff, mem_union]
    constructor
    · rintro ⟨hx | hx, hnot⟩
      · exact hx
      · exact absurd hx hnot
    · exact fun hx => ⟨.inl hx, hapart x hx⟩

/-- An ascending list is sorted already. -/
theorem mergeSort_toList (s : SortedSet α) : s.toList.mergeSort (rank · ≤ rank ·) = s.toList :=
  List.mergeSort_of_pairwise (s.ascending.imp fun h => decide_eq_true (Nat.le_of_lt h))

end SortedSet

namespace Contents

variable {α : Type} {t t' : Contents α}

/-- The other table has all contents of this one at the same places. -/
def Grows (t t' : Contents α) : Prop := t.values <:+ t'.values

section Names

variable [Ranked α] {a b : Nat} {s u : SortedSet α}

/-- The handle stands for the set. -/
def Names (t : Contents α) (a : Nat) (s : SortedSet α) : Prop := t.values.reverse[a]? = some s.toList

theorem Names.content_eq (h : t.Names a s) : t.content a = s.toList := by
  unfold content
  rw [List.getD_eq_getElem?_getD, h, Option.getD_some]

theorem Names.grows (h : t.Names a s) (hg : t.Grows t') : t'.Names a s := by
  obtain ⟨later, heq⟩ := List.reverse_prefix.2 hg
  unfold Names
  rw [← heq, List.getElem?_append_left (List.getElem?_eq_some_iff.1 h).1]
  exact h

/-- Handles are equal exactly if their sets are. -/
theorem Names.eq_iff (hn : t.values.Nodup) (ha : t.Names a s) (hb : t.Names b u) : a = b ↔ s = u := by
  have hlt : a < t.values.reverse.length := (List.getElem?_eq_some_iff.1 ha).1
  unfold Names at ha hb
  rw [← List.getElem?_inj hlt (List.nodup_reverse.2 hn), ha, hb, Option.some_inj]
  exact ⟨SortedSet.ext_toList, congrArg SortedSet.toList⟩

/-- An operation has answered the handle of a set. -/
structure Answers (t : Contents α) (s : SortedSet α) (r : Nat × Contents α) : Prop where
  grows : t.Grows r.2
  nodup : r.2.values.Nodup
  names : r.2.Names r.1 s

theorem answers_operand (hn : t.values.Nodup) (h : t.Names a s) : t.Answers s (a, t) :=
  ⟨List.suffix_refl t.values, hn, h⟩

theorem answers_keep [DecidableEq α] (hn : t.values.Nodup) (s : SortedSet α) : t.Answers s (t.keep s.toList) where
  grows := t.suffix_intern s.toList
  nodup := Interner.nodup_intern hn s.toList
  names := t.getElem?_place s.toList

end Names

section Queries

variable [Movable α] {a b offset : Nat} {s u : SortedSet α}

theorem covers_iff (hn : t.values.Nodup) (ha : t.Names a s) (hb : t.Names b u) :
    t.covers a b = true ↔ ∀ x ∈ u, x ∈ s := by
  unfold covers
  rw [ha.content_eq, hb.content_eq, Bool.or_eq_true, beq_iff_eq, ha.eq_iff hn hb]
  refine (or_iff_right_of_imp ?_).trans SortedSet.includes_iff
  rintro rfl
  exact SortedSet.includes_iff.2 fun x hx => hx

theorem isApart_iff (ha : t.Names a s) (hb : t.Names b u) : t.isApart a b = true ↔ ∀ x ∈ s, x ∉ u := by
  unfold isApart
  rw [ha.content_eq, hb.content_eq]
  exact SortedSet.apart_iff s.ascending u.ascending

theorem moveAll?_eq (hfit : (s.movedUp offset).Fits) : moveAll? offset s.toList = some (s.movedUp offset).toList :=
  if_pos (List.all_eq_true.2 fun x hx => decide_eq_true (hfit x hx))

end Queries

section Operations

variable [DecidableEq α] [Movable α] {a b offset : Nat} {s u : SortedSet α} (hn : t.values.Nodup)
include hn

theorem answers_make (items : List α) : t.Answers (.ofList items) (t.make items) := by
  unfold make
  rw [SortedSet.eraseReps_mergeSort_eq]
  exact answers_keep hn _

theorem exists_shift (ha : t.Names a s) (hfit : (s.movedUp offset).Fits) :
    ∃ r, t.shift a offset = some r ∧ t.Answers (s.movedUp offset) r := by
  unfold shift
  rw [ha.content_eq]
  split
  · rename_i hshort
    refine ⟨_, rfl, ?_⟩
    have hsame : s.movedUp offset = s := by
      rcases hshort with rfl | hempty
      · exact s.movedUp_zero
      · have hnone : ∀ x, x ∉ s := SortedSet.isEmpty_iff.1 hempty
        refine SortedSet.ext_mem fun x => iff_of_false (fun hx => ?_) (hnone x)
        obtain ⟨y, hy, -⟩ := SortedSet.mem_movedUp.1 hx
        exact hnone y hy
    rw [hsame]
    exact answers_operand hn ha
  · rw [moveAll?_eq hfit]
    exact ⟨_, rfl, answers_keep hn _⟩

/-- If what is moved up is arranged as it is, appending answers the union. -/
theorem exists_appendWith (arrange : List α → List α) (harrange : ∀ v : SortedSet α, arrange v.toList = v.toList)
    (ha : t.Names a s) (hb : t.Names b u) (hfit : (u.movedUp offset).Fits) :
    ∃ r, t.appendWith arrange a b offset = some r ∧ t.Answers (s ∪ u.movedUp offset) r := by
  unfold appendWith
  rw [ha.content_eq, hb.content_eq]
  split
  · rename_i hempty
    have hnone : ∀ x, x ∉ u := SortedSet.isEmpty_iff.1 hempty
    refine ⟨_, rfl, ?_⟩
    have hsame : s ∪ u.movedUp offset = s := by
      refine SortedSet.ext_mem fun x => SortedSet.mem_union.trans (or_iff_left fun hx => ?_)
      obtain ⟨y, hy, -⟩ := SortedSet.mem_movedUp.1 hx
      exact hnone y hy
    rw [hsame]
    exact answers_operand hn ha
  · split
    · rename_i hempty
      have hnone : ∀ x, x ∉ s := SortedSet.isEmpty_iff.1 hempty
      have hsame : s ∪ u.movedUp offset = u.movedUp offset :=
        SortedSet.ext_mem fun x => SortedSet.mem_union.trans (or_iff_right (hnone x))
      rw [hsame]
      exact exists_shift hn hb hfit
    · split
      · rename_i hcovers
        obtain ⟨rfl, hcovers⟩ := hcovers
        have hsub := (covers_iff hn ha hb).1 hcovers
        refine ⟨_, rfl, ?_⟩
        have hsame : s ∪ u.movedUp 0 = s := by
          rw [u.movedUp_zero]
          exact SortedSet.ext_mem fun x => SortedSet.mem_union.trans (or_iff_left_of_imp (hsub x))
        rw [hsame]
        exact answers_operand hn ha
      · rw [moveAll?_eq hfit, Option.map_some, harrange]
        exact ⟨_, rfl, answers_keep hn (s ∪ u.movedUp offset)⟩

theorem answers_intersect (ha : t.Names a s) (hb : t.Names b u) : t.Answers (s ∩ u) (t.intersect a b) := by
  unfold intersect
  rw [ha.content_eq, hb.content_eq]
  split
  · rename_i hshort
    have hsub : ∀ x ∈ s, x ∈ u := by
      rcases hshort with heq | hcovers
      · obtain rfl := (ha.eq_iff hn hb).1 heq
        exact fun x hx => hx
      · exact (covers_iff hn hb ha).1 hcovers
    have hsame : s ∩ u = s :=
      SortedSet.ext_mem fun x => SortedSet.mem_inter.trans (and_iff_left_of_imp (hsub x))
    rw [hsame]
    exact answers_operand hn ha
  · split
    · rename_i hcovers
      have hsub := (covers_iff hn ha hb).1 hcovers
      have hsame : s ∩ u = u :=
        SortedSet.ext_mem fun x => SortedSet.mem_inter.trans (and_iff_right_of_imp (hsub x))
      rw [hsame]
      exact answers_operand hn hb
    · rw [SortedSet.common_eq]
      exact answers_keep hn _

/-- Nothing is taken away if the sets have nothing in common. -/
theorem answers_difference (ha : t.Names a s) (hb : t.Names b u) {p : Prop} [Decidable p]
    (hp : p → ∀ x ∈ s, x ∉ u) :
    t.Answers (s \ u) (if p then (a, t) else t.keep (SortedSet.without (t.content a) (t.content b))) := by
  rw [ha.content_eq, hb.content_eq]
  split
  · rename_i h
    have hsame : s \ u = s :=
      SortedSet.ext_mem fun x => SortedSet.mem_sdiff.trans (and_iff_left_of_imp (hp h x))
    rw [hsame]
    exact answers_operand hn ha
  · rw [SortedSet.without_eq]
    exact answers_keep hn _

end Operations

section Kinds

variable {a b offset : Nat}

theorem exists_appendIds {t : Contents Nat} {s u : IdSet} (hn : t.values.Nodup) (ha : t.Names a s)
    (hb : t.Names b u) (hfit : (u.shift offset).Fits) :
    ∃ r, t.appendIds a b offset = some r ∧ t.Answers (s.append u offset) r :=
  exists_appendWith hn (fun ids => ids) (fun _ => rfl) ha hb hfit

theorem answers_subtractIds {t : Contents Nat} {s u : IdSet} (hn : t.values.Nodup) (ha : t.Names a s)
    (hb : t.Names b u) : t.Answers (s \ u) (t.subtractIds a b) := by
  refine answers_difference hn ha hb ?_
  rintro (hempty | hapart)
  · rw [hb.content_eq] at hempty
    exact fun x _ => SortedSet.isEmpty_iff.1 hempty x
  · exact (isApart_iff ha hb).1 hapart

/-- Marks that are moved up stay in order, so sorting them again changes nothing. -/
theorem exists_appendMarks {t : Contents Mark} {s u : Marks} (hn : t.values.Nodup) (ha : t.Names a s)
    (hb : t.Names b u) (hfit : (u.shift offset).Fits) :
    ∃ r, t.appendMarks a b offset = some r ∧ t.Answers (s.append u offset) r :=
  exists_appendWith hn _ SortedSet.mergeSort_toList ha hb hfit

/-- A difference that takes nothing away is kept already. -/
theorem answers_subtractMarks {t : Contents Mark} {s u : Marks} (hn : t.values.Nodup) (ha : t.Names a s)
    (hb : t.Names b u) : t.Answers (s \ u) (t.subtractMarks a b) := by
  refine answers_difference hn ha hb fun hempty => ?_
  rw [hb.content_eq] at hempty
  exact fun x _ => SortedSet.isEmpty_iff.1 hempty x

end Kinds

end Contents

end Polymatch
