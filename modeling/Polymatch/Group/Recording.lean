import Polymatch.Group.Captured
import Polymatch.Group.Layout
import Polymatch.Marks

/-! # Recording group occurrences

A recording collects the occurrences of every slot while edges are taken. An
occurrence stays open until a mark closes it; selecting the groups of a match
closes what is still open at its end.
-/

namespace Polymatch

/-- An occurrence of a group; its end is missing while it is open. -/
structure Occurrence where
  start : Nat
  stop? : Option Nat
  deriving DecidableEq, Repr, Inhabited

/-- No offset lies beyond this one, and it is no end of an occurrence. -/
def maxOffset : Nat := UInt64.size - 1

namespace Occurrence

/-- Apply a boundary at a position to the occurrences of a slot, latest first. -/
def applyBoundary (position : Nat) (occurrences : List Occurrence) : Boundary → List Occurrence
  | .start => ⟨position, none⟩ :: occurrences
  | .endExclusive => closeLatest position occurrences
  | .endInclusive => closeLatest (position + 1) occurrences
where
  closeLatest (stop : Nat) : List Occurrence → List Occurrence
    | [] => []
    | o :: rest => { o with stop? := if stop = maxOffset then none else some stop } :: rest

/-- The span of a closed occurrence. -/
def span? (o : Occurrence) : Option Span := o.stop?.map (⟨o.start, ·⟩)

/-- The span of an occurrence, closed at `stop` if it is open. -/
def spanUntil (o : Occurrence) (stop : Nat) : Span := ⟨o.start, o.stop?.getD stop⟩

end Occurrence

/-- Occurrences per slot, latest first. -/
structure Recording where
  slots : Array (List Occurrence)
  deriving DecidableEq, Repr

namespace Recording

def empty : Recording := ⟨#[]⟩

instance : EmptyCollection Recording := ⟨empty⟩

instance : Inhabited Recording := ⟨empty⟩

/-- The occurrences of a slot, latest first. -/
def occurrences (r : Recording) (slot : Nat) : List Occurrence := r.slots.getD slot []

/-- Replace the occurrences of a slot. -/
def put (r : Recording) (slot : Nat) (l : List Occurrence) : Recording :=
  if slot < r.slots.size then ⟨r.slots.setIfInBounds slot l⟩
  else ⟨(r.slots ++ Array.replicate (slot - r.slots.size) []).push l⟩

/-- Apply the marks of an edge taken at a position. -/
def update (r : Recording) (marks : Marks) (position : Nat) : Recording :=
  marks.toList.foldl
    (fun r m => r.put m.slot (Occurrence.applyBoundary position (r.occurrences m.slot) m.boundary)) r

/-- The closed occurrences of a slot in input order. -/
def closed (r : Recording) (slot : Nat) : List Span :=
  (r.occurrences slot).reverse.filterMap Occurrence.span?

/-- Marks of an exit apply without a symbol of their own. -/
def exitBoundary : Boundary → Boundary
  | .endInclusive => .endExclusive
  | b => b

/-- The occurrences of a slot for a match that ends at `stop` with the given exit marks. -/
def selectSlot (r : Recording) (exit : Marks) (stop slot : Nat) : List Span :=
  let boundaries := (exit.toList.filter (·.slot = slot)).map (exitBoundary ·.boundary)
  let final := boundaries.foldl (Occurrence.applyBoundary stop) (r.occurrences slot)
  final.reverse.map (·.spanUntil stop)

/-- The groups of a match with the given span. -/
def select (r : Recording) (layout : Layout) (exit : Marks) (span : Span) : Captured :=
  ⟨span, layout.slots.map (r.selectSlot exit span.stop)⟩

end Recording

end Polymatch
