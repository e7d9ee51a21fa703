import Polymatch.Automaton.Basic

/-! # Cycles

A state lies on a cycle if a path of at least one edge leads from it back to itself. One depth-first
search through all states finds the components of states that reach each other; it keeps the visits
that are under way on a stack of its own.
-/

namespace Polymatch.Automaton

/-- The states that the edges of a state lead to. -/
def successors (a : Automaton) (state : Nat) : List Nat := (a.node state).edges.edges.map Edge.next

/-- A visit under way: its state, and where the edges lead that are still to be followed. -/
structure Visit where
  state : Nat
  pending : List Nat

structure Search where
  /-- The numbers of the states, in the order in which they were entered. -/
  index : Array (Option Nat)
  /-- The least number that a state is known to reach on the stack. -/
  low : Array Nat
  /-- The states that were entered and whose component is not complete, the latest first. -/
  stack : List Nat
  onStack : Array Bool
  /-- The visits under way, the latest first. -/
  visits : List Visit
  counter : Nat
  cyclic : Array Bool

namespace Search

def start (states : Nat) : Search where
  index := .replicate states none
  low := .replicate states 0
  stack := []
  onStack := .replicate states false
  visits := []
  counter := 0
  cyclic := .replicate states false

def index? (s : Search) (state : Nat) : Option Nat := s.index.getD state none

def lowest (s : Search) (state : Nat) : Nat := s.low.getD state 0

def holds (s : Search) (state : Nat) : Bool := s.onStack.getD state false

def setAll (value : Bool) (states : List Nat) (flags : Array Bool) : Array Bool :=
  states.foldl (fun flags state => flags.setIfInBounds state value) flags

/-- Begin the visit of a state. -/
def enter (s : Search) (state : Nat) (successors : List Nat) : Search :=
  { s with
    index := s.index.setIfInBounds state (some s.counter)
    low := s.low.setIfInBounds state s.counter
    stack := state :: s.stack
    onStack := s.onStack.setIfInBounds state true
    visits := ⟨state, successors⟩ :: s.visits
    counter := s.counter + 1 }

def lower (s : Search) (state number : Nat) : Search :=
  { s with low := s.low.setIfInBounds state (min (s.lowest state) number) }

/-- Follow an edge from `state` to `next`. -/
def follow (s : Search) (state next : Nat) (successors : List Nat) : Search :=
  match s.index? next with
  | none => s.enter next successors
  | some number => if s.holds next then s.lower state number else s

/-- Take a state and all that lies above it off the stack. They are on a cycle if there are several of
them, or if the state has an edge to itself. -/
def complete (s : Search) (state : Nat) (loops : Bool) : Search :=
  let size := (s.stack.takeWhile (· != state)).length + 1
  let component := s.stack.take size
  { s with
    stack := s.stack.drop size
    onStack := setAll false component s.onStack
    cyclic := if component.length > 1 || loops then setAll true component s.cyclic else s.cyclic }

/-- End the visit of a state. What it reaches is within reach of the visit below. -/
def leave (s : Search) (state : Nat) (loops : Bool) : Search :=
  let lowered :=
    match s.visits with
    | [] => s
    | below :: _ => s.lower below.state (s.lowest state)
  if lowered.index? state = some (lowered.lowest state) then lowered.complete state loops else lowered

/-- Follow the next edge of the latest visit, or end it. -/
def step (a : Automaton) (s : Search) : Search :=
  match s.visits with
  | [] => s
  | ⟨state, next :: pending⟩ :: visits =>
    { s with visits := ⟨state, pending⟩ :: visits }.follow state next (a.successors next)
  | ⟨state, []⟩ :: visits => { s with visits }.leave state ((a.successors state).contains state)

def run (a : Automaton) : Nat → Search → Search
  | 0, s => s
  | fuel + 1, s => if s.visits.isEmpty then s else run a fuel (s.step a)

end Search

/-- Every step follows an edge or ends a visit. -/
def stepBound (a : Automaton) : Nat :=
  ((List.range a.stateCount).map fun state => (a.successors state).length + 1).foldr (· + ·) 0

/-- Visit a state, and what it reaches, unless it has been entered. -/
def explore (a : Automaton) (s : Search) (root : Nat) : Search :=
  match s.index? root with
  | none => (s.enter root (a.successors root)).run a a.stepBound
  | some _ => s

/-- For every state, whether it lies on a cycle. -/
def cycles (a : Automaton) : Array Bool :=
  ((List.range a.stateCount).foldl a.explore (.start a.stateCount)).cyclic

/-- Whether a state lies on a cycle. -/
def isCyclic (a : Automaton) (state : Nat) : Bool := a.cycles.getD state false

end Polymatch.Automaton
