/-! # Finite sets as ascending lists

Elements carry an injective natural rank, and a set is the list of its elements
in strictly ascending rank. The representation is canonical: two sets with the
same members are the same value, so equality of sets is equality of lists.
-/

namespace Polymatch

/-- A type whose elements are told apart and ordered by a natural number. -/
class Ranked (α : Type) where
  rank : α → Nat
  rank_inj : ∀ {a b : α}, rank a = rank b → a = b

instance : Ranked Nat := ⟨id, id⟩

open Ranked (rank rank_inj)

structure SortedSet (α : Type) [Ranked α] where
  toList : List α
  ascending : toList.Pairwise (rank · < rank ·)

namespace SortedSet

variable {α β : Type} [Ranked α] [Ranked β]

@[ext] theorem ext_toList {a b : SortedSet α} (h : a.toList = b.toList) : a = b := by
  cases a; cases b; congr

instance [DecidableEq α] : DecidableEq (SortedSet α) := fun a b =>
  decidable_of_iff (a.toList = b.toList) ⟨ext_toList, congrArg toList⟩

instance : Membership α (SortedSet α) := ⟨fun s a => a ∈ s.toList⟩

theorem mem_def {s : SortedSet α} {a : α} : a ∈ s ↔ a ∈ s.toList := Iff.rfl

def empty : SortedSet α := ⟨[], .nil⟩

instance : EmptyCollection (SortedSet α) := ⟨empty⟩

@[simp] theorem not_mem_empty (a : α) : a ∉ (∅ : SortedSet α) := List.not_mem_nil

instance : Inhabited (SortedSet α) := ⟨empty⟩

def singleton (a : α) : SortedSet α := ⟨[a], List.pairwise_singleton ..⟩

@[simp] theorem mem_singleton {a b : α} : a ∈ singleton b ↔ a = b := List.mem_singleton

/-- Put `a` in its place in an ascending list that may hold it already. -/
def place (a : α) : List α → List α
  | [] => [a]
  | b :: l =>
    if rank a < rank b then a :: b :: l
    else if rank a = rank b then b :: l
    else b :: place a l

@[simp] theorem mem_place {a x : α} {l : List α} : x ∈ place a l ↔ x = a ∨ x ∈ l := by
  induction l with
  | nil => simp [place]
  | cons b l ih =>
    unfold place
    split
    · simp
    · split
      · rename_i h
        simp [rank_inj h]
      · simp [ih, or_left_comm]

theorem place_ascending (a : α) {l : List α} (h : l.Pairwise (rank · < rank ·)) :
    (place a l).Pairwise (rank · < rank ·) := by
  induction l with
  | nil => exact List.pairwise_singleton ..
  | cons b l ih =>
    unfold place
    have hb := List.pairwise_cons.1 h
    split
    · rename_i hab
      refine List.pairwise_cons.2 ⟨fun x hx => ?_, h⟩
      rcases List.mem_cons.1 hx with rfl | hx
      · exact hab
      · exact Nat.lt_trans hab (hb.1 x hx)
    · split
      · exact h
      · refine List.pairwise_cons.2 ⟨fun x hx => ?_, ih hb.2⟩
        rcases mem_place.1 hx with rfl | hx
        · omega
        · exact hb.1 x hx

def insert (s : SortedSet α) (a : α) : SortedSet α := ⟨place a s.toList, place_ascending a s.ascending⟩

@[simp] theorem mem_insert {s : SortedSet α} {a x : α} : x ∈ s.insert a ↔ x = a ∨ x ∈ s :=
  mem_place

def ofList (l : List α) : SortedSet α := l.foldl insert empty

def isEmpty (s : SortedSet α) : Bool := s.toList.isEmpty

@[simp] theorem isEmpty_iff {s : SortedSet α} : s.isEmpty = true ↔ ∀ a, a ∉ s := by
  rw [isEmpty, List.isEmpty_iff, List.eq_nil_iff_forall_not_mem]
  exact Iff.rfl

theorem isEmpty_eq_false {s : SortedSet α} : s.isEmpty = false ↔ ∃ a, a ∈ s := by
  rw [← Bool.not_eq_true, isEmpty_iff]
  simp

/-- Sets with the same members are equal. -/
theorem ext_mem {s t : SortedSet α} (h : ∀ a, a ∈ s ↔ a ∈ t) : s = t := by
  refine ext_toList (List.Perm.eq_of_pairwise (fun a b _ _ hab hba => ?_) s.ascending t.ascending ?_)
  · omega
  · have hs : s.toList.Nodup := s.ascending.imp fun hab h => by simp [h] at hab
    have ht : t.toList.Nodup := t.ascending.imp fun hab h => by simp [h] at hab
    exact (List.perm_ext_iff_of_nodup hs ht).2 h

def size (s : SortedSet α) : Nat := s.toList.length

def contains (s : SortedSet α) (a : α) : Bool := s.toList.any (rank · == rank a)

@[simp] theorem contains_iff {s : SortedSet α} {a : α} : s.contains a = true ↔ a ∈ s := by
  simp only [contains, List.any_eq_true, beq_iff_eq, mem_def]
  exact ⟨fun ⟨x, hx, h⟩ => rank_inj h ▸ hx, fun h => ⟨a, h, rfl⟩⟩

/-- The greatest element. -/
def max? (s : SortedSet α) : Option α := s.toList.getLast?

theorem mem_of_max? {s : SortedSet α} {m : α} (h : s.max? = some m) : m ∈ s :=
  List.mem_of_getLast? h

theorem le_max? {s : SortedSet α} {a : α} (h : a ∈ s) : ∃ m, s.max? = some m ∧ rank a ≤ rank m := by
  have hne : s.toList ≠ [] := List.ne_nil_of_mem h
  refine ⟨_, List.getLast?_eq_some_getLast hne, ?_⟩
  have hs : s.toList.dropLast ++ [s.toList.getLast hne] = s.toList := List.dropLast_concat_getLast hne
  have hp := s.ascending
  rw [← hs, List.pairwise_append] at hp
  rw [mem_def, ← hs, List.mem_append, List.mem_singleton] at h
  rcases h with h | rfl
  · exact Nat.le_of_lt (hp.2.2 a h _ (List.mem_singleton.2 rfl))
  · exact Nat.le_refl _

def filter (s : SortedSet α) (p : α → Bool) : SortedSet α := ⟨s.toList.filter p, s.ascending.filter p⟩

@[simp] theorem mem_filter {s : SortedSet α} {p : α → Bool} {a : α} :
    a ∈ s.filter p ↔ a ∈ s ∧ p a = true := List.mem_filter

/-- Merge a list that starts with `a` and whose remainder `rest` knows how to merge. -/
def mergeFrom (a : α) (rest : List α → List α) : List α → List α
  | [] => a :: rest []
  | b :: t =>
    if rank a < rank b then a :: rest (b :: t)
    else if rank a = rank b then a :: rest t
    else b :: mergeFrom a rest t

/-- Merge ascending lists; what is in both is kept once. -/
def merge : List α → List α → List α
  | [] => id
  | a :: s => mergeFrom a (merge s)

theorem mem_mergeFrom {a x : α} {s : List α} {rest : List α → List α}
    (h : ∀ t, x ∈ rest t ↔ x ∈ s ∨ x ∈ t) (t : List α) :
    x ∈ mergeFrom a rest t ↔ x ∈ a :: s ∨ x ∈ t := by
  induction t with
  | nil => simp [mergeFrom, h]
  | cons b t ih =>
    unfold mergeFrom
    split
    · simp [h, or_assoc]
    · split
      · rename_i hab
        obtain rfl := rank_inj hab
        simp only [List.mem_cons, h]
        grind
      · simp only [List.mem_cons] at ih ⊢
        rw [ih, or_left_comm]

theorem mem_merge {x : α} (s t : List α) : x ∈ merge s t ↔ x ∈ s ∨ x ∈ t := by
  induction s generalizing t with
  | nil => simp [merge]
  | cons a s ih => exact mem_mergeFrom ih t

theorem merge_ascending {s t : List α} (hs : s.Pairwise (rank · < rank ·))
    (ht : t.Pairwise (rank · < rank ·)) : (merge s t).Pairwise (rank · < rank ·) := by
  induction s generalizing t with
  | nil => exact ht
  | cons a s ih =>
    have ha := List.pairwise_cons.1 hs
    induction t with
    | nil =>
      refine List.pairwise_cons.2 ⟨fun x hx => ?_, ih ha.2 .nil⟩
      exact ha.1 x (by simpa using (mem_merge s []).1 hx)
    | cons b t iht =>
      have hb := List.pairwise_cons.1 ht
      show (mergeFrom a (merge s) (b :: t)).Pairwise _
      unfold mergeFrom
      split
      · rename_i hab
        refine List.pairwise_cons.2 ⟨fun x hx => ?_, ih ha.2 ht⟩
        rcases (mem_merge s _).1 hx with hx | hx
        · exact ha.1 x hx
        · rcases List.mem_cons.1 hx with rfl | hx
          · exact hab
          · exact Nat.lt_trans hab (hb.1 x hx)
      · split
        · rename_i hab
          refine List.pairwise_cons.2 ⟨fun x hx => ?_, ih ha.2 hb.2⟩
          rcases (mem_merge s _).1 hx with hx | hx
          · exact ha.1 x hx
          · exact hab ▸ hb.1 x hx
        · refine List.pairwise_cons.2 ⟨fun x hx => ?_, iht hb.2⟩
          rcases (mem_merge (a :: s) t).1 hx with hx | hx
          · rcases List.mem_cons.1 hx with rfl | hx
            · omega
            · have := ha.1 x hx
              omega
          · exact hb.1 x hx

def union (s t : SortedSet α) : SortedSet α :=
  ⟨merge s.toList t.toList, merge_ascending s.ascending t.ascending⟩

instance : Union (SortedSet α) := ⟨union⟩

@[simp] theorem mem_union {s t : SortedSet α} {a : α} : a ∈ s ∪ t ↔ a ∈ s ∨ a ∈ t :=
  mem_merge s.toList t.toList

theorem eq_empty_iff {s : SortedSet α} : s = ∅ ↔ ∀ a, a ∉ s :=
  ⟨fun h a => h ▸ not_mem_empty a, fun h => ext_mem fun a => iff_of_false (h a) (not_mem_empty a)⟩

@[simp] theorem union_empty (s : SortedSet α) : s ∪ ∅ = s := ext_mem fun a => by simp

@[simp] theorem empty_union (s : SortedSet α) : ∅ ∪ s = s := ext_mem fun a => by simp

@[simp] theorem union_self (s : SortedSet α) : s ∪ s = s := ext_mem fun a => by simp

theorem union_assoc (s t u : SortedSet α) : s ∪ t ∪ u = s ∪ (t ∪ u) := ext_mem fun a => by
  simp only [mem_union, or_assoc]

def inter (s t : SortedSet α) : SortedSet α := s.filter t.contains

instance : Inter (SortedSet α) := ⟨inter⟩

@[simp] theorem mem_inter {s t : SortedSet α} {a : α} : a ∈ s ∩ t ↔ a ∈ s ∧ a ∈ t := by
  simp only [Inter.inter, inter, mem_filter, contains_iff]

def diff (s t : SortedSet α) : SortedSet α := s.filter (!t.contains ·)

/-- Walk an ascending list in search of every element of another. -/
def holdsAll : List α → List α → Bool
  | _, [] => true
  | [], _ :: _ => false
  | a :: s, b :: t =>
    if rank a < rank b then holdsAll s (b :: t)
    else if rank a = rank b then holdsAll s t
    else false

theorem holdsAll_iff {s t : List α} (hs : s.Pairwise (rank · < rank ·))
    (ht : t.Pairwise (rank · < rank ·)) : holdsAll s t = true ↔ ∀ x ∈ t, x ∈ s := by
  fun_induction holdsAll s t with
  | case1 => simp
  | case2 b t => exact iff_of_false (by simp) fun h => nomatch h b List.mem_cons_self
  | case3 a s b t hab ih =>
    rw [ih (List.pairwise_cons.1 hs).2 ht]
    refine ⟨fun h x hx => List.mem_cons_of_mem _ (h x hx), fun h x hx => ?_⟩
    rcases List.mem_cons.1 (h x hx) with rfl | hxs
    · rcases List.mem_cons.1 hx with rfl | hxt
      · omega
      · have := (List.pairwise_cons.1 ht).1 x hxt
        omega
    · exact hxs
  | case4 a s b t _ hab ih =>
    obtain rfl := rank_inj hab
    rw [ih (List.pairwise_cons.1 hs).2 (List.pairwise_cons.1 ht).2]
    refine ⟨fun h x hx => ?_, fun h x hx => ?_⟩
    · rcases List.mem_cons.1 hx with rfl | hx
      · exact List.mem_cons_self
      · exact List.mem_cons_of_mem _ (h x hx)
    · rcases List.mem_cons.1 (h x (List.mem_cons_of_mem _ hx)) with rfl | hxs
      · have := (List.pairwise_cons.1 ht).1 x hx
        omega
      · exact hxs
  | case5 a s b t hlt hne =>
    simp only [Bool.false_eq_true, List.mem_cons, forall_eq_or_imp, false_iff]
    rintro ⟨rfl | hb, _⟩
    · exact hne rfl
    · have := (List.pairwise_cons.1 hs).1 b hb
      omega

/-- Every element of `t` is in `s`. -/
def includes (s t : SortedSet α) : Bool := holdsAll s.toList t.toList

@[simp] theorem includes_iff {s t : SortedSet α} : s.includes t = true ↔ ∀ a ∈ t, a ∈ s :=
  holdsAll_iff s.ascending t.ascending

def disjoint (s t : SortedSet α) : Bool := !s.toList.any t.contains

/-- The image under a map that keeps the order. -/
def map (f : α → β) (hf : ∀ {a b}, rank a < rank b → rank (f a) < rank (f b)) (s : SortedSet α) :
    SortedSet β :=
  ⟨s.toList.map f, List.pairwise_map.2 (s.ascending.imp hf)⟩

instance : SDiff (SortedSet α) := ⟨diff⟩

end SortedSet

end Polymatch
