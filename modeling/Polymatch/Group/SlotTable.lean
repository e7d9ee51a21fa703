import Polymatch.Error

/-! # Slot tables

The slots of a pattern's groups, worked out once and kept by position. The positions are sorted by
their labels; a label that occurs twice shows between two neighbours; and turning the sorted positions
round gives every position its slot. A table answers as the layout of the same labels, which finds a
slot by counting.
-/

namespace Polymatch

/-- What can be asked about the groups of a pattern. -/
structure GroupViews where
  base : Nat
  size : Nat
  isEmpty : Bool
  label? : Nat → Option Label
  slot? : Nat → Option Nat
  positionOf? : Label → Option Nat
  slotOf? : Label → Option Nat
  slots : List Nat

def Layout.views (l : Layout) : GroupViews :=
  ⟨l.base, l.size, l.isEmpty, l.label?, l.slot?, l.positionOf?, l.slotOf?, l.slots⟩

/-- Labels in the order of declaration, and the slot of each of them before the base is added. -/
structure SlotTable where
  labels : List Label
  ranks : Array Nat
  base : Nat
  size_ranks : ranks.size = labels.length
  deriving DecidableEq, Repr

namespace SlotTable

/-- Positions in the order of their labels; those of equal labels stay in the order of declaration. -/
def order (labels : List Label) : List Nat :=
  (List.range labels.length).mergeSort fun i j => !decide (labels.getD j [] < labels.getD i [])

/-- The first two neighbours in that order that have the same label. -/
def clash? (labels : List Label) : Option (Nat × Nat) :=
  ((order labels).zip (order labels).tail).find? fun p => labels.getD p.1 [] = labels.getD p.2 []

/-- Write numbers to the places that go with them. -/
def fill (ranks : Array Nat) (places : List (Nat × Nat)) : Array Nat :=
  places.foldl (fun ranks p => ranks.setIfInBounds p.1 p.2) ranks

theorem size_fill (ranks : Array Nat) (places : List (Nat × Nat)) : (fill ranks places).size = ranks.size := by
  rw [fill]
  induction places generalizing ranks with
  | nil => rfl
  | cons p places ih => rw [List.foldl_cons, ih, Array.size_setIfInBounds]

/-- Every position gets the place at which it stands in the order of the labels. -/
def ranked (labels : List Label) : Array Nat := fill (Array.replicate labels.length 0) (order labels).zipIdx

theorem size_ranked (labels : List Label) : (ranked labels).size = labels.length := by
  rw [ranked, size_fill, Array.size_replicate]

/-- The table of distinct labels; fails with the least label that occurs twice. -/
def ofLabels (labels : List Label) : Except BuildError SlotTable :=
  match clash? labels with
  | some p => .error (.duplicateCapture (labels.getD p.1 []))
  | none => .ok ⟨labels, ranked labels, 0, size_ranked labels⟩

/-- The same table with its slots moved up to start at `base`. -/
def withBase (t : SlotTable) (base : Nat) : SlotTable := { t with base }

/-- Label of the group declared at a position, counted from 1. -/
def label? (t : SlotTable) (position : Nat) : Option Label :=
  if position = 0 then none else t.labels[position - 1]?

/-- Slot of the group declared at a position, counted from 1. -/
def slot? (t : SlotTable) (position : Nat) : Option Nat :=
  if position = 0 then none else t.ranks[position - 1]?.map (t.base + ·)

/-- Position of the group with a label, counted from 1. -/
def positionOf? (t : SlotTable) (label : Label) : Option Nat := (t.labels.idxOf? label).map (· + 1)

/-- Slot of the group with a label. -/
def slotOf? (t : SlotTable) (label : Label) : Option Nat :=
  (t.labels.idxOf? label).bind fun i => t.ranks[i]?.map (t.base + ·)

/-- Slots in the order of declaration. -/
def slots (t : SlotTable) : List Nat := t.ranks.toList.map (t.base + ·)

def views (t : SlotTable) : GroupViews :=
  ⟨t.base, t.labels.length, t.labels.isEmpty, t.label?, t.slot?, t.positionOf?, t.slotOf?, t.slots⟩

/-- The layout of the same groups. -/
def layout (t : SlotTable) : Layout := ⟨t.labels, t.base⟩

end SlotTable

end Polymatch
