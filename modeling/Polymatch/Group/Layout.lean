/-! # Capture layouts

A group is named by its label, the path of child indices from the outermost group
down to it. A layout gives the groups of a pattern, in the order in which they
are declared, slots in the order of their labels.
-/

namespace Polymatch

/-- Path of a group through the groups around it. -/
abbrev Label := List Nat

structure Layout where
  labels : List Label
  base : Nat
  deriving DecidableEq, Repr, Inhabited

namespace Layout

/-- The least label that occurs twice. -/
def duplicate? (labels : List Label) : Option Label :=
  let sorted := labels.mergeSort fun a b => !decide (b < a)
  ((sorted.zip sorted.tail).find? fun p => p.1 = p.2).map (·.1)

/-- The layout of distinct labels; fails with the least label that occurs twice. -/
def ofLabels (labels : List Label) : Except Label Layout :=
  match duplicate? labels with
  | some label => .error label
  | none => .ok ⟨labels, 0⟩

/-- The same layout with its slots moved up to start at `base`. -/
def withBase (l : Layout) (base : Nat) : Layout := { l with base }

/-- Number of groups. -/
def size (l : Layout) : Nat := l.labels.length

def isEmpty (l : Layout) : Bool := l.labels.isEmpty

/-- Slot of a label: the number of labels below it, from the base on. -/
def slotOf (l : Layout) (label : Label) : Nat := l.base + l.labels.countP (· < label)

/-- Label of the group declared at a position, counted from 1. -/
def label? (l : Layout) (position : Nat) : Option Label :=
  if position = 0 then none else l.labels[position - 1]?

/-- Slot of the group declared at a position, counted from 1. -/
def slot? (l : Layout) (position : Nat) : Option Nat := (l.label? position).map l.slotOf

/-- Position of the group with a label, counted from 1. -/
def positionOf? (l : Layout) (label : Label) : Option Nat := (l.labels.idxOf? label).map (· + 1)

/-- Slot of the group with a label. -/
def slotOf? (l : Layout) (label : Label) : Option Nat :=
  if l.labels.contains label then some (l.slotOf label) else none

/-- Slots in the order of declaration. -/
def slots (l : Layout) : List Nat := l.labels.map l.slotOf

end Layout

end Polymatch
