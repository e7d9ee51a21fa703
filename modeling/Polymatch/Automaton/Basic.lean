import Polymatch.Node

/-! # Automata

A dense table of states that accepts several patterns at once. Reading an input,
an automaton keeps the set of patterns that survived every edge so far; an input
is accepted by the patterns that survive it and accept in the state it leads to.
-/

namespace Polymatch

structure Automaton where
  nodes : Array Node
  start : Nat
  /-- Pattern ids lie below this bound. -/
  patterns : Nat
  /-- Group slots lie below this bound. -/
  captures : Nat
  /-- The marks on edges may disagree with the groups of the alternative that matched. -/
  ambiguous : Bool
  deriving DecidableEq, Inhabited

namespace Automaton

/-- One above the greatest of some numbers, with a default for none. -/
def boundOf (default : Nat) (numbers : List Nat) : Nat :=
  match numbers.max? with
  | some n => n + 1
  | none => default

/-- An automaton over a table of states; the bounds of ids and slots are read off the table. -/
def ofNodes (nodes : Array Node) (start : Nat) : Automaton where
  nodes := nodes
  start := start
  patterns := boundOf 1 (nodes.toList.flatMap Node.ids)
  captures := boundOf 0 (nodes.toList.flatMap Node.slots)
  ambiguous := false

def withAmbiguous (a : Automaton) (ambiguous : Bool) : Automaton :=
  { a with ambiguous := a.ambiguous || ambiguous }

/-- Raise the number of slots, for groups that no path can reach. -/
def withCaptures (a : Automaton) (captures : Nat) : Automaton :=
  { a with captures := max a.captures captures }

/-- Raise the number of patterns. -/
def withPatterns (a : Automaton) (patterns : Nat) : Automaton :=
  { a with patterns := max a.patterns patterns }

def node (a : Automaton) (state : Nat) : Node := a.nodes.getD state .dead

def stateCount (a : Automaton) : Nat := a.nodes.size

/-- Every pattern id. -/
def routes (a : Automaton) : IdSet := IdSet.range a.patterns

/-- Size of the table in bytes. -/
def memorySize (a : Automaton) : Nat :=
  a.nodes.foldr (fun n size => 64 + 48 * n.edges.size + size) 48

/-- Where a run stands: a state and the patterns alive. -/
structure Cursor where
  state : Nat
  live : IdSet
  deriving DecidableEq

def initial (a : Automaton) : Cursor := ⟨a.start, a.routes⟩

/-- Follow one ordinal; fails where no edge leads on or no pattern survives the edge. -/
def step? (a : Automaton) (c : Cursor) (x : Nat) : Option (Cursor × Marks) :=
  match (a.node c.state).step? x with
  | none => none
  | some e =>
    let live := c.live ∩ e.routes
    if live.isEmpty then none else some (⟨e.next, live⟩, e.marks)

/-- The patterns that accept at a cursor. -/
def acceptedAt (a : Automaton) (c : Cursor) : IdSet := (a.node c.state).accept ∩ c.live

def run? (a : Automaton) (c : Cursor) (input : List Nat) : Option Cursor :=
  input.foldlM (fun c x => (a.step? c x).map (·.1)) c

/-- Ids of the patterns that accept the whole of an input. -/
def accepts (a : Automaton) (input : List Nat) : IdSet :=
  match a.run? a.initial input with
  | some c => a.acceptedAt c
  | none => ∅

/-- Whether some pattern accepts the whole of an input. -/
def isMatch (a : Automaton) (input : List Nat) : Bool := !(a.accepts input).isEmpty

end Automaton

end Polymatch
