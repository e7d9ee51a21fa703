import Polymatch.Unicode.Runs

/-! # Properties with several values

A property with several values divides the code points into labelled classes.
Names stand for one class or for several.
-/

namespace Polymatch.Unicode

/-- A division of the code points into labelled classes. -/
structure Partition where
  /-- Maximal stretches of one label, ascending. -/
  stretches : List (String × Interval)
  /-- The names of classes in folded form, with the labels they stand for. -/
  names : List (List String × List String)

namespace Partition

/-- The label of a code point. -/
def label? (p : Partition) (n : Nat) : Option String :=
  (p.stretches.find? (·.2.contains n)).map (·.1)

/-- The code points with one of the given labels. -/
def members (p : Partition) (labels : List String) : List Interval :=
  Interval.normalize ((p.stretches.filter (labels.contains ·.1)).map (·.2))

/-- The labels that a folded name stands for. -/
def labels? (p : Partition) (name : String) : Option (List String) :=
  (p.names.find? (·.1.contains name)).map (·.2)

/-- The code points that a folded name stands for. -/
def named? (p : Partition) (name : String) : Option (List Interval) :=
  (p.labels? name).map p.members

end Partition

end Polymatch.Unicode
