import Polymatch.Alphabet
import Polymatch.Automaton.Basic
import Polymatch.Error
import Polymatch.Group.Recording
import Polymatch.Replay
import Polymatch.Text.Quoted

/-! # Matchers

A matcher couples an automaton with a capture layout and a constructor of values
for every pattern. Groups come from the marks on the edges taken, or from the
replay program of a pattern that has one.
-/

namespace Polymatch

/-- Builds the value of a match from the input and the captured groups. -/
abbrev Constructor (α : Type) := List Nat → Captured → α

structure Found (α : Type) where
  pattern : Nat
  span : Span
  value : α
  deriving DecidableEq, Repr

structure Matcher (α : Type) where
  automaton : Automaton
  layouts : List Layout
  constructors : List (Constructor α)
  /-- A pattern without a program has exact marks. -/
  programs : List (Option Program)

namespace Automaton

/-- A place in the input where some pattern accepts. -/
structure Stop where
  stop : Nat
  accepted : IdSet
  exit : Marks
  recording : Recording

/-- The accepting places on the way from a cursor through the rest of the input. -/
def stopsFrom (a : Automaton) (c : Cursor) (recording : Recording) (pos : Nat) : List Nat → List Stop
  | [] => here c recording pos
  | x :: rest =>
    here c recording pos ++
      match a.step? c x with
      | none => []
      | some (c, marks) => a.stopsFrom c (recording.update marks pos) (pos + 1) rest
where
  here (c : Cursor) (recording : Recording) (pos : Nat) : List Stop :=
    let accepted := a.acceptedAt c
    if accepted.isEmpty then [] else [⟨pos, accepted, (a.node c.state).exit, recording⟩]

/-- The accepting places of the scan that starts at an offset, nearest first. -/
def stops (a : Automaton) (input : List Nat) (start : Nat) : List Stop :=
  a.stopsFrom a.initial ∅ start (input.drop start)

end Automaton

namespace Matcher

variable {α : Type}

/-- A matcher that reads groups from edge marks alone; fails if some pattern of the automaton has
no layout or no constructor. -/
def new (automaton : Automaton) (layouts : List Layout) (constructors : List (Constructor α)) :
    Except BuildError (Matcher α) :=
  let covered := min layouts.length constructors.length
  if covered < automaton.patterns then .error (.missingConstructor covered)
  else .ok ⟨automaton, layouts, constructors, []⟩

/-- Whether some pattern matches the whole input. -/
def isMatch (m : Matcher α) (input : List Nat) : Bool := m.automaton.isMatch input

/-- The groups of a pattern at an accepting place. -/
def capturedAt (m : Matcher α) (input : List Nat) (start : Nat) (s : Automaton.Stop) (pattern : Nat)
    (layout : Layout) : Captured :=
  let replayed := ((m.programs[pattern]?).getD none).bind fun program =>
    program.captures? start ((input.drop start).take (s.stop - start))
  replayed.getD (s.recording.select layout s.exit ⟨start, s.stop⟩)

/-- The match of one pattern at an accepting place. -/
def found? (m : Matcher α) (input : List Nat) (start : Nat) (s : Automaton.Stop) (pattern : Nat) :
    Option (Found α) :=
  match m.layouts[pattern]?, m.constructors[pattern]? with
  | some layout, some construct =>
    some ⟨pattern, ⟨start, s.stop⟩, construct input (m.capturedAt input start s pattern layout)⟩
  | _, _ => none

/-- The matches of all patterns at an accepting place, by ascending id. -/
def foundAt (m : Matcher α) (input : List Nat) (start : Nat) (s : Automaton.Stop) : List (Found α) :=
  s.accepted.toList.filterMap (m.found? input start s)

/-- Every pattern that matches the whole input, by ascending id. -/
def exactAll (m : Matcher α) (input : List Nat) : List (Found α) :=
  match (m.automaton.stops input 0).getLast? with
  | some s => if s.stop = input.length then m.foundAt input 0 s else []
  | none => []

/-- The pattern of lowest id that matches the whole input. -/
def firstExact? (m : Matcher α) (input : List Nat) : Option (Found α) := (m.exactAll input).head?

/-- A list between brackets. -/
def listText (items : List String) : String := "[" ++ ", ".intercalate items ++ "]"

def layoutText (l : Layout) : String :=
  "Capture \x7b labels: " ++ listText (l.labels.map fun label => listText (label.map toString)) ++
    ", slots: " ++ listText ((l.withBase 0).slots.map toString) ++ ", base: " ++ toString l.base ++
    " \x7d"

/-- Summary of a matcher in one line. -/
def text (m : Matcher α) (σ : Alphabet) : String :=
  "Matcher \x7b scheme: " ++ Text.quoted σ.name ++
    ", states: " ++ toString m.automaton.stateCount ++
    ", patterns: " ++ toString m.automaton.patterns ++
    ", captures: " ++ listText (m.layouts.map layoutText) ++
    ", resolved: " ++ toString (m.programs.countP Option.isSome) ++ " \x7d"

end Matcher

end Polymatch
