/-! # Intervals of ordinals

Character classes and edge groups are lists of half-open intervals. The normal
form of a list is ascending with a gap between neighbours; `gaps` is the part of
a window that a list leaves free.
-/

namespace Polymatch

/-- The ordinals from `lo` on and below `hi`. -/
structure Interval where
  lo : Nat
  hi : Nat
  deriving DecidableEq, Repr, Inhabited

namespace Interval

def single (x : Nat) : Interval := ⟨x, x + 1⟩

def isEmpty (i : Interval) : Bool := i.hi ≤ i.lo

@[simp] theorem isEmpty_eq_false {i : Interval} : i.isEmpty = false ↔ i.lo < i.hi := by
  simp [isEmpty]

def contains (i : Interval) (x : Nat) : Bool := i.lo ≤ x && x < i.hi

@[simp] theorem contains_iff {i : Interval} {x : Nat} : i.contains x = true ↔ i.lo ≤ x ∧ x < i.hi := by
  simp [contains]

/-- Merge the intervals of a list sorted by `lo` into `first` where they touch it. -/
def absorb (first : Interval) : List Interval → List Interval
  | [] => [first]
  | i :: rest =>
    if i.lo ≤ first.hi then absorb ⟨first.lo, max first.hi i.hi⟩ rest
    else first :: absorb i rest

/-- Join the intervals of a list sorted by `lo` where they touch. -/
def join : List Interval → List Interval
  | [] => []
  | i :: rest => absorb i rest

/-- The ascending list of the same ordinals, with a gap between neighbours. -/
def normalize (l : List Interval) : List Interval :=
  join ((l.filter (!·.isEmpty)).mergeSort (·.lo ≤ ·.lo))

/-- The parts from `lo` on and below `limit` that an ascending list leaves free. -/
def gaps (lo limit : Nat) : List Interval → List Interval
  | [] => if lo < limit then [⟨lo, limit⟩] else []
  | i :: rest =>
    let later := gaps (max lo i.hi) limit rest
    if lo < min i.lo limit then ⟨lo, min i.lo limit⟩ :: later else later

/-- The ordinals below `limit` outside an ascending list. -/
def complement (l : List Interval) (limit : Nat) : List Interval := gaps 0 limit l

/-- Some interval of the list contains `x`. -/
def covers (l : List Interval) (x : Nat) : Bool := l.any (·.contains x)

end Interval

end Polymatch
