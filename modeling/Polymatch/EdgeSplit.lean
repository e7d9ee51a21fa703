import Polymatch.EdgeMap

/-! # Splits of two edge maps

Two maps are aligned by cutting them at every boundary that either has. A piece is
bound by the left map alone, by the right map alone, or by both. The cuts are made
in one pass over both maps, which always looks at the lowest piece not yet cut off.
-/

namespace Polymatch

/-- A group that two maps both bind, with the edge of each side. -/
structure SharedGroup where
  group : Interval
  left : Edge
  right : Edge
  deriving DecidableEq

/-- Two maps cut at every boundary that either has. -/
structure EdgeSplit where
  leftOnly : List Edge
  rightOnly : List Edge
  both : List SharedGroup
  deriving DecidableEq

namespace EdgeSplit

variable (e : Edge) (group : SharedGroup) (s : EdgeSplit)

def consLeft : EdgeSplit := { s with leftOnly := e :: s.leftOnly }

def consRight : EdgeSplit := { s with rightOnly := e :: s.rightOnly }

def consBoth : EdgeSplit := { s with both := group :: s.both }

/-- Number of pieces. -/
def size : Nat := s.leftOnly.length + s.rightOnly.length + s.both.length

@[simp] theorem size_consLeft : (s.consLeft e).size = s.size + 1 := by
  simp only [size, consLeft, List.length_cons]
  omega

@[simp] theorem size_consRight : (s.consRight e).size = s.size + 1 := by
  simp only [size, consRight, List.length_cons]
  omega

@[simp] theorem size_consBoth : (s.consBoth group).size = s.size + 1 := by
  simp only [size, consBoth, List.length_cons]
  omega

end EdgeSplit

/-- An edge from which the part of its group below `lo` has been cut off. -/
structure Uncut where
  lo : Nat
  edge : Edge

namespace Uncut

variable {a b : Uncut} {l r : List Uncut}

def whole (e : Edge) : Uncut := ⟨e.lo, e⟩

/-- The edge on the part of its group that is left. -/
def rest (a : Uncut) : Edge := a.edge.onGroup ⟨a.lo, a.edge.hi⟩

/-- Cut off the first edge below `hi`, and leave it behind if nothing remains. -/
def advance (a : Uncut) (hi : Nat) (l : List Uncut) : List Uncut :=
  if hi = a.edge.hi then l else ⟨hi, a.edge⟩ :: l

/-- Whether both sides go on at different ordinals. -/
def offset : List Uncut → List Uncut → Nat
  | a :: _, b :: _ => if a.lo = b.lo then 0 else 1
  | _, _ => 0

/-- Every piece leaves an edge behind, or lets both sides go on at one ordinal. -/
def bound (l r : List Uncut) : Nat := 2 * (l.length + r.length) + offset l r

theorem offset_le_one (l r : List Uncut) : offset l r ≤ 1 := by
  unfold offset
  split
  · split <;> omega
  · omega

theorem length_advance_le (a : Uncut) (hi : Nat) (l : List Uncut) : (a.advance hi l).length ≤ l.length + 1 := by
  unfold advance
  split <;> simp

theorem bound_left_lt (h : a.lo < b.lo) :
    bound (a.advance (min a.edge.hi b.lo) l) (b :: r) < bound (a :: l) (b :: r) := by
  have hoffset : offset (a :: l) (b :: r) = 1 := if_neg (Nat.ne_of_lt h)
  have hle := offset_le_one l (b :: r)
  simp only [bound, hoffset, advance, List.length_cons]
  split
  · omega
  · have hmeet : offset (⟨min a.edge.hi b.lo, a.edge⟩ :: l) (b :: r) = 0 := if_pos (by simp only; omega)
    simp only [hmeet, List.length_cons]
    omega

theorem bound_right_lt (h : b.lo < a.lo) :
    bound (a :: l) (b.advance (min b.edge.hi a.lo) r) < bound (a :: l) (b :: r) := by
  have hoffset : offset (a :: l) (b :: r) = 1 := if_neg (Nat.ne_of_gt h)
  have hle := offset_le_one (a :: l) r
  simp only [bound, hoffset, advance, List.length_cons]
  split
  · omega
  · have hmeet : offset (a :: l) (⟨min b.edge.hi a.lo, b.edge⟩ :: r) = 0 := if_pos (by simp only; omega)
    simp only [hmeet, List.length_cons]
    omega

theorem bound_both_lt (a b : Uncut) (l r : List Uncut) :
    bound (a.advance (min a.edge.hi b.edge.hi) l) (b.advance (min a.edge.hi b.edge.hi) r) <
      bound (a :: l) (b :: r) := by
  have hle := offset_le_one (a.advance (min a.edge.hi b.edge.hi) l) (b.advance (min a.edge.hi b.edge.hi) r)
  have hlength : (a.advance (min a.edge.hi b.edge.hi) l).length +
      (b.advance (min a.edge.hi b.edge.hi) r).length ≤ l.length + r.length + 1 := by
    rcases Nat.le_total a.edge.hi b.edge.hi with h | h
    · have hdone : a.advance a.edge.hi l = l := if_pos rfl
      have := length_advance_le b a.edge.hi r
      rw [Nat.min_eq_left h, hdone]
      omega
    · have hdone : b.advance b.edge.hi r = r := if_pos rfl
      have := length_advance_le a b.edge.hi l
      rw [Nat.min_eq_right h, hdone]
      omega
  simp only [bound, List.length_cons]
  omega

end Uncut

namespace EdgeMap

/-- Cut off one piece after the other, until one side is used up and the other remains alone. -/
def sweep : List Uncut → List Uncut → EdgeSplit
  | a :: l, b :: r =>
    if hl : a.lo < b.lo then
      have := Uncut.bound_left_lt (l := l) (r := r) hl
      let hi := min a.edge.hi b.lo
      (sweep (a.advance hi l) (b :: r)).consLeft (a.edge.onGroup ⟨a.lo, hi⟩)
    else if hr : b.lo < a.lo then
      have := Uncut.bound_right_lt (l := l) (r := r) hr
      let hi := min b.edge.hi a.lo
      (sweep (a :: l) (b.advance hi r)).consRight (b.edge.onGroup ⟨b.lo, hi⟩)
    else
      have := Uncut.bound_both_lt a b l r
      let hi := min a.edge.hi b.edge.hi
      (sweep (a.advance hi l) (b.advance hi r)).consBoth ⟨⟨a.lo, hi⟩, a.edge, b.edge⟩
  | l, r => ⟨l.map Uncut.rest, r.map Uncut.rest, []⟩
termination_by l r => Uncut.bound l r

def split (l r : EdgeMap) : EdgeSplit := sweep (l.edges.map .whole) (r.edges.map .whole)

end EdgeMap

end Polymatch
