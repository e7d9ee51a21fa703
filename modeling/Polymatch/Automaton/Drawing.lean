import Polymatch.Alphabet
import Polymatch.Automaton.Cycle

/-! # Drawing automata

The text of an automaton in the DOT language. Edges inside a cycle are bold, and
routes are shown where there are several patterns.
-/

namespace Polymatch.Automaton

/-- A label between quotes: quotes and backslashes take a backslash. -/
def escapeLabel (label : String) : String :=
  String.ofList (label.toList.flatMap fun c => if c = '\\' || c = '"' then ['\\', c] else [c])

def dotState (state : Nat) (n : Node) : List String :=
  if n.isAccepting then
    let exit := if n.exit.isEmpty then "" else " " ++ n.exit.text
    let label := toString state ++ " " ++ n.accept.text ++ exit
    ["\t" ++ toString state ++ " [shape=doublecircle, label=\"" ++ escapeLabel label ++ "\"];"]
  else []

def dotEdge (a : Automaton) (σ : Alphabet) (cyclic : Array Bool) (state : Nat) (e : Edge) : String :=
  let marks := if e.marks.isEmpty then "" else " " ++ e.marks.text
  let routes := if 1 < a.patterns then " " ++ e.routes.text else ""
  let label := σ.label e.lo e.hi ++ marks ++ routes
  let style := if cyclic.getD state false && cyclic.getD e.next false then ", style=bold" else ""
  "\t" ++ toString state ++ " -> " ++ toString e.next ++ " [label=\"" ++ escapeLabel label ++ "\"" ++
    style ++ "];"

def dotNode (a : Automaton) (σ : Alphabet) (cyclic : Array Bool) (state : Nat) : List String :=
  let n := a.node state
  dotState state n ++ n.edges.edges.map (a.dotEdge σ cyclic state)

/-- The drawing of an automaton, one line per item. -/
def toDot (a : Automaton) (σ : Alphabet) : String :=
  let states := List.range a.stateCount
  let cyclic := a.cycles
  let lines := ["digraph automaton \x7b", "\trankdir=LR;", "\tnode [shape=circle];",
    "\tstart [shape=point];", "\tstart -> " ++ toString a.start ++ ";"] ++
    states.flatMap (a.dotNode σ cyclic) ++ ["\x7d"]
  String.join (lines.map (· ++ "\n"))

end Polymatch.Automaton
