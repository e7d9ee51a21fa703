import Mathlib.Data.List.Basic
import Polymatch.EdgeSplit
import Polymatch.Proofs.Edges.Lookup

/-! # What a split consists of

Splitting two maps in one pass leaves, for each side, the gaps of the other side in its
groups, and as shared pieces the intersections of the groups of both.
-/

namespace Polymatch

namespace Uncut

variable {a b c : Uncut} {l r : List Uncut} {hi : Nat} {taken : List Interval}

/-- The part of the edge that is not cut off yet. -/
def group (a : Uncut) : Interval := ⟨a.lo, a.edge.hi⟩

/-- What both edges bind. -/
def meet? (a b : Uncut) : Option SharedGroup :=
  if max a.lo b.lo < min a.edge.hi b.edge.hi then
    some ⟨⟨max a.lo b.lo, min a.edge.hi b.edge.hi⟩, a.edge, b.edge⟩
  else none

/-- The pieces of an edge that some groups leave free. -/
def free (taken : List Interval) (a : Uncut) : List Edge :=
  (Interval.gaps a.lo a.edge.hi taken).map a.edge.onGroup

/-- What the edges of two sides bind together. -/
def meets (l r : List Uncut) : List SharedGroup := l.flatMap fun a => r.filterMap a.meet?

/-- Sides of a split: not empty, and each of them behind the one before. -/
structure Ascending (l : List Uncut) : Prop where
  nonempty : ∀ a ∈ l, a.lo < a.edge.hi
  ascending : l.Pairwise fun a b => a.edge.hi ≤ b.lo

theorem Ascending.head (h : Ascending (a :: l)) : a.lo < a.edge.hi := h.nonempty a List.mem_cons_self

theorem Ascending.le_lo (h : Ascending (a :: l)) (hb : b ∈ l) : a.edge.hi ≤ b.lo :=
  (List.pairwise_cons.1 h.ascending).1 b hb

theorem Ascending.tail (h : Ascending (a :: l)) : Ascending l :=
  ⟨fun b hb => h.nonempty b (List.mem_cons_of_mem _ hb), (List.pairwise_cons.1 h.ascending).2⟩

theorem Ascending.head_le (h : Ascending (a :: l)) (hb : b ∈ a :: l) : a.lo ≤ b.lo := by
  rcases List.mem_cons.1 hb with rfl | hb
  · exact Nat.le_refl _
  · exact Nat.le_of_lt (Nat.lt_of_lt_of_le h.head (h.le_lo hb))

theorem advance_eq_or (a : Uncut) (hi : Nat) (l : List Uncut) :
    (hi = a.edge.hi ∧ a.advance hi l = l) ∨ (hi ≠ a.edge.hi ∧ a.advance hi l = ⟨hi, a.edge⟩ :: l) := by
  rw [advance]
  split
  · exact .inl ⟨‹_›, rfl⟩
  · exact .inr ⟨‹_›, rfl⟩

theorem Ascending.advance (h : Ascending (a :: l)) (hle : hi ≤ a.edge.hi) : Ascending (a.advance hi l) := by
  rcases advance_eq_or a hi l with ⟨-, heq⟩ | ⟨hne, heq⟩ <;> rw [heq]
  · exact h.tail
  · refine ⟨List.forall_mem_cons.2 ⟨Nat.lt_of_le_of_ne hle hne, h.tail.nonempty⟩, ?_⟩
    exact List.pairwise_cons.2 ⟨fun b hb => h.le_lo hb, h.tail.ascending⟩

theorem Ascending.le_of_mem_advance (h : Ascending (a :: l)) (hle : hi ≤ a.edge.hi) (hb : b ∈ a.advance hi l) :
    hi ≤ b.lo := by
  rcases advance_eq_or a hi l with ⟨-, heq⟩ | ⟨-, heq⟩ <;> rw [heq] at hb
  · exact Nat.le_trans hle (h.le_lo hb)
  · rcases List.mem_cons.1 hb with rfl | hb
    · exact Nat.le_refl _
    · exact Nat.le_trans hle (h.le_lo hb)

theorem gaps_cons_of_le {lo limit : Nat} {i : Interval} (h : i.lo ≤ lo) (rest : List Interval) :
    Interval.gaps lo limit (i :: rest) = Interval.gaps (max lo i.hi) limit rest := by
  rw [Interval.gaps_cons, if_neg (by omega), List.nil_append]

theorem gaps_eq_nil {lo limit : Nat} (h : limit ≤ lo) (taken : List Interval) :
    Interval.gaps lo limit taken = [] := by
  refine List.eq_nil_iff_forall_not_mem.2 fun i hi => ?_
  have := Interval.bounds_of_mem_gaps hi
  omega

section Free

/-- An edge that is cut off to its end leaves nothing free. -/
theorem flatMap_free_advance (a : Uncut) (hi : Nat) (l : List Uncut) (taken : List Interval) :
    (a.advance hi l).flatMap (free taken) = free taken ⟨hi, a.edge⟩ ++ l.flatMap (free taken) := by
  rcases advance_eq_or a hi l with ⟨rfl, heq⟩ | ⟨-, heq⟩ <;> rw [heq]
  · rw [free, gaps_eq_nil (Nat.le_refl _), List.map_nil, List.nil_append]
  · rw [List.flatMap_cons]

theorem flatMap_free_nil (h : ∀ a ∈ l, a.lo < a.edge.hi) : l.flatMap (free []) = l.map rest := by
  rw [List.map_eq_flatMap]
  refine List.flatMap_congr fun a ha => ?_
  rw [free, Interval.gaps, if_pos (h a ha)]
  rfl

/-- What lies in front of an edge can be cut off from the other side. -/
theorem free_advance (hlo : b.lo ≤ hi) (hle : hi ≤ a.lo) :
    free ((b.advance hi r).map group) a = free ((b :: r).map group) a := by
  have hcons : ∀ lo ≤ hi, Interval.gaps a.lo a.edge.hi (⟨lo, b.edge.hi⟩ :: r.map group) =
      Interval.gaps (max a.lo b.edge.hi) a.edge.hi (r.map group) :=
    fun lo h => gaps_cons_of_le (Nat.le_trans h hle) _
  rw [free, free, List.map_cons, group, hcons b.lo hlo]
  rcases advance_eq_or b hi r with ⟨heq, hr⟩ | ⟨-, hr⟩ <;> rw [hr]
  · rw [Nat.max_eq_left (heq ▸ hle)]
  · rw [List.map_cons, group, hcons hi (Nat.le_refl _)]

/-- A part that the other side binds is not free. -/
theorem free_of_bound (hlo : b.lo ≤ a.lo) (hle : a.lo ≤ hi) (hhi : hi ≤ b.edge.hi) :
    free ((b :: r).map group) a = free ((b :: r).map group) ⟨hi, a.edge⟩ := by
  rw [free, free, List.map_cons, gaps_cons_of_le hlo, gaps_cons_of_le (Nat.le_trans hlo hle)]
  simp only [group, Nat.max_eq_right hhi, Nat.max_eq_right (Nat.le_trans hle hhi)]

/-- The part in front of the other side is free. -/
theorem free_of_ahead (ha : a.lo < a.edge.hi) (hlo : a.lo < b.lo) (hb : b.lo < b.edge.hi) :
    free ((b :: r).map group) a = a.edge.onGroup ⟨a.lo, min a.edge.hi b.lo⟩ ::
      free ((b :: r).map group) ⟨min a.edge.hi b.lo, a.edge⟩ := by
  have hpiece : Interval.gaps a.lo a.edge.hi ((b :: r).map group) =
      ⟨a.lo, min a.edge.hi b.lo⟩ :: Interval.gaps b.edge.hi a.edge.hi (r.map group) := by
    rw [List.map_cons, Interval.gaps_cons, group, if_pos (by simp only; omega), List.singleton_append]
    simp only [Nat.min_comm b.lo, Nat.max_eq_right (Nat.le_of_lt (Nat.lt_trans hlo hb))]
  rw [free, hpiece, List.map_cons, free]
  rcases Nat.le_total a.edge.hi b.lo with hle | hle
  · simp only [Nat.min_eq_left hle]
    rw [gaps_eq_nil (by omega), gaps_eq_nil (Nat.le_refl _)]
  · simp only [Nat.min_eq_right hle]
    rw [List.map_cons, gaps_cons_of_le (Nat.le_refl b.lo), group]
    simp only [Nat.max_eq_right (Nat.le_of_lt hb)]

end Free

section Meets

theorem meet?_eq_none (h : min a.edge.hi b.edge.hi ≤ max a.lo b.lo) : a.meet? b = none := if_neg (by omega)

theorem meets_advance_left (a : Uncut) (hi : Nat) (l r : List Uncut) :
    meets (a.advance hi l) r = r.filterMap (meet? ⟨hi, a.edge⟩) ++ meets l r := by
  rcases advance_eq_or a hi l with ⟨rfl, heq⟩ | ⟨-, heq⟩ <;> rw [heq]
  · have hnone : ∀ b ∈ r, meet? ⟨a.edge.hi, a.edge⟩ b = none := fun b _ => meet?_eq_none (by simp only; omega)
    rw [List.filterMap_eq_nil_iff.2 hnone, List.nil_append]
  · rw [meets, List.flatMap_cons, meets]

/-- What lies in front of the right side can be cut off from the left side. -/
theorem meets_of_left (hlo : a.lo ≤ hi) (hr : ∀ b ∈ r, hi ≤ b.lo) :
    meets (a.advance hi l) r = meets (a :: l) r := by
  have hmeet : ∀ b ∈ r, meet? ⟨hi, a.edge⟩ b = meet? a b := fun b hb => by
    rw [meet?, meet?, Nat.max_eq_right (hr b hb), Nat.max_eq_right (Nat.le_trans hlo (hr b hb))]
  rw [meets_advance_left, List.filterMap_congr hmeet, meets, meets, List.flatMap_cons]

/-- What lies in front of the left side can be cut off from the right side. -/
theorem meets_of_right (hlo : b.lo ≤ hi) (hl : ∀ a ∈ l, hi ≤ a.lo) :
    meets l (b.advance hi r) = meets l (b :: r) := by
  refine List.flatMap_congr fun a ha => ?_
  have hle := hl a ha
  rcases advance_eq_or b hi r with ⟨heq, hr⟩ | ⟨-, hr⟩ <;> rw [hr]
  · rw [List.filterMap_cons_none (meet?_eq_none (by omega))]
  · have hmeet : meet? a ⟨hi, b.edge⟩ = meet? a b := by
      rw [meet?, meet?, Nat.max_eq_left hle, Nat.max_eq_left (Nat.le_trans hlo hle)]
    rw [List.filterMap_cons, List.filterMap_cons, hmeet]

/-- Where both sides begin at one ordinal, the first piece is bound by both. -/
theorem meets_cons_cons (hl : Ascending (a :: l)) (hr : Ascending (b :: r)) (heq : a.lo = b.lo) :
    meets (a :: l) (b :: r) = ⟨⟨a.lo, min a.edge.hi b.edge.hi⟩, a.edge, b.edge⟩ ::
      meets (a.advance (min a.edge.hi b.edge.hi) l) (b.advance (min a.edge.hi b.edge.hi) r) := by
  generalize hhi : min a.edge.hi b.edge.hi = hi
  have hla := hl.head
  have hrb := hr.head
  have hhead : meet? a b = some ⟨⟨a.lo, hi⟩, a.edge, b.edge⟩ := by
    rw [meet?, ← heq, Nat.max_self, hhi, if_pos (by omega)]
  have hlater : ∀ c ∈ r, meet? a c = meet? ⟨hi, a.edge⟩ c := fun c hc => by
    have hle := hr.le_lo hc
    have hac : a.lo ≤ c.lo := by omega
    have hic : hi ≤ c.lo := by omega
    rw [meet?, meet?, Nat.max_eq_right hac, Nat.max_eq_right hic]
  have hleft : (b.advance hi r).filterMap (meet? ⟨hi, a.edge⟩) = r.filterMap (meet? ⟨hi, a.edge⟩) := by
    rcases advance_eq_or b hi r with ⟨-, heq⟩ | ⟨hne, heq⟩ <;> rw [heq]
    have hnone : meet? ⟨hi, a.edge⟩ ⟨hi, b.edge⟩ = none := meet?_eq_none (by simp only; omega)
    rw [List.filterMap_cons_none hnone]
  have hright : meets l (b.advance hi r) = meets l (b :: r) :=
    meets_of_right (by omega) fun c hc => by
      have := hl.le_lo hc
      omega
  rw [meets_advance_left, hleft, hright, meets, List.flatMap_cons, List.filterMap_cons_some hhead,
    List.filterMap_congr hlater]
  rfl

end Meets

end Uncut

namespace EdgeMap

open Uncut (Ascending free meets group)

/-- The pass over two sides cuts them into what each leaves free of the other and what they bind together. -/
theorem sweep_eq {l r : List Uncut} (hl : Ascending l) (hr : Ascending r) :
    sweep l r = ⟨l.flatMap (free (r.map group)), r.flatMap (free (l.map group)), meets l r⟩ := by
  fun_induction sweep l r with
  | case1 a l b r hlt _ hi ih =>
    -- The left side begins first, and its piece ends where the right side begins or before.
    have hlo : a.lo ≤ hi := Nat.le_min.2 ⟨Nat.le_of_lt hl.head, Nat.le_of_lt hlt⟩
    have hahead : ∀ c ∈ b :: r, hi ≤ c.lo := fun c hc => Nat.le_trans (Nat.min_le_right ..) (hr.head_le hc)
    have hleft : (a :: l).flatMap (free ((b :: r).map group)) = a.edge.onGroup ⟨a.lo, hi⟩ ::
        (a.advance hi l).flatMap (free ((b :: r).map group)) := by
      rw [List.flatMap_cons, Uncut.free_of_ahead hl.head hlt hr.head, Uncut.flatMap_free_advance, List.cons_append]
    have hright : (b :: r).flatMap (free ((a.advance hi l).map group)) =
        (b :: r).flatMap (free ((a :: l).map group)) :=
      List.flatMap_congr fun c hc => Uncut.free_advance hlo (hahead c hc)
    rw [ih (hl.advance (Nat.min_le_left ..)) hr, hleft, hright, Uncut.meets_of_left hlo hahead]
    rfl
  | case2 a l b r hnot hlt _ hi ih =>
    -- The right side begins first.
    have hlo : b.lo ≤ hi := Nat.le_min.2 ⟨Nat.le_of_lt hr.head, Nat.le_of_lt hlt⟩
    have hahead : ∀ c ∈ a :: l, hi ≤ c.lo := fun c hc => Nat.le_trans (Nat.min_le_right ..) (hl.head_le hc)
    have hright : (b :: r).flatMap (free ((a :: l).map group)) = b.edge.onGroup ⟨b.lo, hi⟩ ::
        (b.advance hi r).flatMap (free ((a :: l).map group)) := by
      rw [List.flatMap_cons, Uncut.free_of_ahead hr.head hlt hl.head, Uncut.flatMap_free_advance, List.cons_append]
    have hleft : (a :: l).flatMap (free ((b.advance hi r).map group)) =
        (a :: l).flatMap (free ((b :: r).map group)) :=
      List.flatMap_congr fun c hc => Uncut.free_advance hlo (hahead c hc)
    rw [ih hl (hr.advance (Nat.min_le_left ..)), hright, hleft, Uncut.meets_of_right hlo hahead]
    rfl
  | case3 a l b r hnot hnot' _ hi ih =>
    -- Both sides begin at one ordinal, and one of them is left behind.
    have heq : a.lo = b.lo := by omega
    have hla : hi ≤ a.edge.hi := Nat.min_le_left ..
    have hrb : hi ≤ b.edge.hi := Nat.min_le_right ..
    have hlt : a.lo < hi := Nat.lt_min.2 ⟨hl.head, heq ▸ hr.head⟩
    have hltb : b.lo < hi := heq ▸ hlt
    have haheadl : ∀ c ∈ a.advance hi l, hi ≤ c.lo := fun c => hl.le_of_mem_advance hla
    have haheadr : ∀ c ∈ b.advance hi r, hi ≤ c.lo := fun c => hr.le_of_mem_advance hrb
    have hleft : (a.advance hi l).flatMap (free ((b.advance hi r).map group)) =
        (a :: l).flatMap (free ((b :: r).map group)) := by
      rw [List.flatMap_congr fun c hc => Uncut.free_advance (Nat.le_of_lt hltb) (haheadl c hc),
        Uncut.flatMap_free_advance, List.flatMap_cons, ← Uncut.free_of_bound (Nat.le_of_eq heq.symm) (Nat.le_of_lt hlt) hrb]
    have hright : (b.advance hi r).flatMap (free ((a.advance hi l).map group)) =
        (b :: r).flatMap (free ((a :: l).map group)) := by
      rw [List.flatMap_congr fun c hc => Uncut.free_advance (Nat.le_of_lt hlt) (haheadr c hc),
        Uncut.flatMap_free_advance, List.flatMap_cons, ← Uncut.free_of_bound (Nat.le_of_eq heq) (Nat.le_of_lt hltb) hla]
    rw [ih (hl.advance hla) (hr.advance hrb), hleft, hright, Uncut.meets_cons_cons hl hr heq]
    rfl
  | case4 l r hnot =>
    -- One side is used up, and what is left of the other is free.
    cases l with
    | nil =>
      rw [← Uncut.flatMap_free_nil hr.nonempty]
      rfl
    | cons a l => cases r with
      | nil =>
        have hnone : meets (a :: l) [] = [] := List.flatMap_eq_nil_iff.2 fun _ _ => rfl
        rw [← Uncut.flatMap_free_nil hl.nonempty, hnone]
        rfl
      | cons b r => exact (hnot a l b r rfl rfl).elim

variable {l r : EdgeMap}

/-- The parts of the groups of `l` that `r` leaves free. -/
def uncovered (l r : EdgeMap) : List Edge :=
  l.edges.flatMap fun e => (Interval.gaps e.lo e.hi (r.edges.map Edge.group)).map e.onGroup

/-- The groups that two maps share. -/
def shared (l r : EdgeMap) : List SharedGroup :=
  l.edges.flatMap fun a => r.edges.filterMap fun b =>
    if max a.lo b.lo < min a.hi b.hi then some ⟨⟨max a.lo b.lo, min a.hi b.hi⟩, a, b⟩ else none

theorem ascending_whole (m : EdgeMap) : Ascending (m.edges.map .whole) where
  nonempty := List.forall_mem_map.2 m.canonical.nonempty
  ascending := List.pairwise_map.2 (m.canonical.ascending.imp And.left)

/-- A split consists of what each map leaves free of the other and of what they share. -/
theorem split_eq (l r : EdgeMap) : split l r = ⟨uncovered l r, uncovered r l, shared l r⟩ := by
  have hgroups : ∀ m : EdgeMap, (m.edges.map Uncut.whole).map group = m.edges.map Edge.group :=
    fun m => by rw [List.map_map]; rfl
  have hmeets : meets (l.edges.map .whole) (r.edges.map .whole) = shared l r := by
    rw [meets, List.flatMap_map]
    refine List.flatMap_congr fun a _ => ?_
    rw [List.filterMap_map]
    rfl
  rw [split, sweep_eq l.ascending_whole r.ascending_whole, hmeets, hgroups, hgroups, List.flatMap_map,
    List.flatMap_map]
  rfl

end EdgeMap

end Polymatch
