import Polymatch.EdgeMap

/-! # Nodes of automata -/

namespace Polymatch

/-- A state: its outgoing edges, the patterns that accept when the input ends
here, and the group boundaries that apply then. -/
structure Node where
  edges : EdgeMap
  accept : IdSet
  exit : Marks
  deriving DecidableEq

namespace Node

/-- The node without an edge that accepts nothing. -/
def dead : Node := ⟨∅, ∅, ∅⟩

instance : Inhabited Node := ⟨dead⟩

def isAccepting (n : Node) : Bool := !n.accept.isEmpty

theorem isAccepting_iff {n : Node} : n.isAccepting = true ↔ ∃ i, i ∈ n.accept := by
  rw [isAccepting, Bool.not_eq_true', SortedSet.isEmpty_eq_false]

def step? (n : Node) (x : Nat) : Option Edge := n.edges.find? x

/-- Add marks to every edge, and to the exit if the node accepts. -/
def overlay (n : Node) (marks : Marks) : Node where
  edges := n.edges.map fun e => { e with marks := e.marks ∪ marks }
  accept := n.accept
  exit := if n.isAccepting then n.exit ∪ marks else n.exit

/-- Greatest ids of the accept set and of the routes of every edge. -/
def ids (n : Node) : List Nat := (n.accept :: n.edges.edges.map Edge.routes).filterMap SortedSet.max?

/-- Greatest slots of the exit and of the marks of every edge. -/
def slots (n : Node) : List Nat := (n.exit :: n.edges.edges.map Edge.marks).filterMap Marks.maxSlot?

end Node

end Polymatch
