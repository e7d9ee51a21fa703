import Polymatch.Conventional.Fault
import Polymatch.EdgeMap
import Polymatch.Group.Layout
import Polymatch.ParseError

/-! # Errors of building automata and matchers -/

namespace Polymatch

inductive BuildError
  /-- A text in the library's own pattern syntax does not parse. -/
  | parse (error : ParseError)
  /-- A text in the conventional pattern syntax does not parse. -/
  | conventional (fault : Conventional.Fault)
  /-- A class without a character in the basic plane. -/
  | unsupportedClass
  /-- Assertions have no counterpart in an automaton. -/
  | unsupportedLook (name : String)
  | unsupportedRepetition (min max limit : Nat)
  | duplicateCapture (label : Label)
  /-- An input is accepted by patterns that were declared disjoint. -/
  | overlappingAccept (left right : List Nat)
  | mergeDepthExceeded (bound : Nat)
  | missingConstructor (pattern : Nat)
  | noPatterns
  | overlappingEdges (overlap : EdgeOverlap)
  | notOpenMarker (node : Nat)
  deriving DecidableEq, Repr

namespace BuildError

def numbers (l : List Nat) : String := "[" ++ ", ".intercalate (l.map toString) ++ "]"

def range (i : Interval) : String := toString i.lo ++ ".." ++ toString i.hi

def message : BuildError → String
  | parse error => error.message
  | conventional fault => fault.message
  | unsupportedClass => "unsupported character class"
  | unsupportedLook name => "unsupported look-around assertion: " ++ name
  | unsupportedRepetition min max limit =>
    "unsupported repetition: \x7b" ++ toString min ++ "," ++ toString max ++ "\x7d exceeds " ++
      toString limit
  | duplicateCapture label => "duplicate capture group label " ++ numbers label
  | overlappingAccept left right =>
    "patterns " ++ numbers left ++ " and " ++ numbers right ++ " accept the same input"
  | mergeDepthExceeded bound => "pattern merge exceeded the depth bound " ++ toString bound
  | missingConstructor pattern => "no constructor for pattern " ++ toString pattern
  | noPatterns => "no patterns to build"
  | overlappingEdges overlap =>
    "overlapping binding " ++ range overlap.later ++ " after " ++ range overlap.earlier
  | notOpenMarker node => "make_loop: " ++ toString node ++ " is not an open loop marker"

end BuildError

end Polymatch
