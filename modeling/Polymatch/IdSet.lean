import Polymatch.SortedSet

/-! # Sets of pattern ids

An edge carries the ids of the patterns that survive it, and a state the ids of
the patterns that accept there.
-/

namespace Polymatch

abbrev IdSet := SortedSet Nat

namespace IdSet

/-- The ids below `n`. -/
def range (n : Nat) : IdSet :=
  ⟨List.range n, List.pairwise_lt_range⟩

@[simp] theorem mem_range {n i : Nat} : i ∈ range n ↔ i < n := List.mem_range

/-- Every id moved up by `offset`. -/
def shift (s : IdSet) (offset : Nat) : IdSet :=
  s.map (· + offset) (Nat.add_lt_add_right · offset)

@[simp] theorem mem_shift {s : IdSet} {offset i : Nat} : i ∈ s.shift offset ↔ ∃ j ∈ s, j + offset = i :=
  List.mem_map

/-- The union of `s` with `t` moved up by `offset`. -/
def append (s t : IdSet) (offset : Nat) : IdSet := s ∪ t.shift offset

/-- The ids between braces, separated by commas. -/
def text (s : IdSet) : String :=
  "\x7b" ++ ", ".intercalate (s.toList.map toString) ++ "\x7d"

end IdSet

end Polymatch
