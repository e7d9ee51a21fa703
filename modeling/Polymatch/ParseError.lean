import Polymatch.Text.Quoted
import Polymatch.Text.Units

/-! # Errors of pattern and template texts

An error names what is wrong and the byte offset at which it was noticed.
-/

namespace Polymatch

/-- What is wrong with the counts of a quantifier. -/
inductive QuantifierFault
  | countTooLarge (count limit : Nat)
  | separatorExpected
  | minAboveMax (min max : Nat)
  | missingCount
  deriving DecidableEq, Repr

namespace QuantifierFault

def message : QuantifierFault → String
  | countTooLarge n limit => "count " ++ toString n ++ " exceeds " ++ toString limit
  | separatorExpected => "expected `,` or `\x7d`"
  | minAboveMax min max => "\x7b" ++ toString min ++ "," ++ toString max ++ "\x7d has min above max"
  | missingCount => "missing count"

end QuantifierFault

inductive ParseErrorKind
  | unclosedGroup
  | unopenedGroup
  | unclosedClass
  | invalidRange (lo hi : Char)
  | outOfRange (c : Char)
  | unknownEscape (c : Char)
  | danglingEscape
  | invalidUnicodeEscape
  | nothingToRepeat
  | invalidQuantifier (fault : QuantifierFault)
  /-- A number beyond the range of its type. -/
  | number
  | unclosedReference
  | invalidReference
  deriving DecidableEq, Repr

namespace ParseErrorKind

def message : ParseErrorKind → String
  | unclosedGroup => "unclosed group"
  | unopenedGroup => "unopened group"
  | unclosedClass => "unclosed character class"
  | invalidRange lo hi => "invalid class range " ++ Text.quotedChar lo ++ "-" ++ Text.quotedChar hi
  | outOfRange c => "character " ++ Text.quotedChar c ++ " is outside the 16-bit range"
  | unknownEscape c => "unknown escape \\" ++ toString c
  | danglingEscape => "dangling backslash"
  | invalidUnicodeEscape => "invalid \\u escape"
  | nothingToRepeat => "nothing to repeat"
  | invalidQuantifier fault => "invalid quantifier: " ++ fault.message
  | number => "invalid number"
  | unclosedReference => "unclosed group reference"
  | invalidReference => "invalid group reference"

end ParseErrorKind

/-- An error in a text that is known from the context: what is wrong and the rest of the text
from there on. -/
structure Fault where
  rest : List Char
  kind : ParseErrorKind
  deriving DecidableEq, Repr

structure ParseError where
  input : String
  offset : Nat
  kind : ParseErrorKind
  deriving DecidableEq, Repr

namespace ParseError

/-- The error at the place that is as far from the end of the input as the fault's rest is long. -/
def ofFault (input : String) (fault : Fault) : ParseError :=
  ⟨input, Text.byteSize input.toList - Text.byteSize fault.rest, fault.kind⟩

/-- The characters from a byte offset on, if a character starts there. -/
def dropBytes? : Nat → List Char → Option (List Char)
  | 0, cs => some cs
  | _ + 1, [] => none
  | n + 1, c :: cs => if c.utf8Size ≤ n + 1 then dropBytes? (n + 1 - c.utf8Size) cs else none

/-- The input from the error on. -/
def fragment (e : ParseError) : String := String.ofList ((dropBytes? e.offset e.input.toList).getD [])

def message (e : ParseError) : String :=
  e.kind.message ++ " at offset " ++ toString e.offset ++ " in `" ++ e.input ++ "`"

end ParseError

end Polymatch
