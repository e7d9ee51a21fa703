/-! # Captured groups

Spans are half-open ranges of input offsets. A match reports its own span and
every occurrence of every group, in input order.
-/

namespace Polymatch

structure Span where
  start : Nat
  stop : Nat
  deriving DecidableEq, Repr, Inhabited

structure Captured where
  span : Span
  groups : List (List Span)
  deriving DecidableEq, Repr, Inhabited

namespace Captured

/-- Number of declared groups. -/
def size (c : Captured) : Nat := c.groups.length

/-- All occurrences of a group; group 0 is the whole match. -/
def group (c : Captured) : Nat → List Span
  | 0 => [c.span]
  | position + 1 => c.groups.getD position []

/-- The last occurrence of a group. -/
def last? (c : Captured) (position : Nat) : Option Span := (c.group position).getLast?

end Captured

end Polymatch
