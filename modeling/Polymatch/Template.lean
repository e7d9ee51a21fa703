import Polymatch.Group.Captured
import Polymatch.ParseError
import Polymatch.Text.Numeral

/-! # Replacement templates

A template is literal text with references to groups: a number between brackets
stands for the last occurrence of that group, and a backslash takes the next
character literally.
-/

namespace Polymatch

inductive Piece
  | literal (text : String)
  | group (number : Nat)
  deriving DecidableEq, Repr

structure Template where
  pieces : List Piece
  deriving DecidableEq, Repr

namespace Template

/-- One character, or a reference, of a template. -/
inductive Token
  | char (c : Char)
  | reference (group : Nat)
  deriving DecidableEq, Repr

/-- Greatest number of a group. -/
def maxGroupNumber : Nat := UInt64.size - 1

/-- The number between brackets. -/
def groupNumber (digits : List Char) : Except ParseErrorKind Nat :=
  if digits.isEmpty || !digits.all Char.isDigit then .error .invalidReference
  else if maxGroupNumber < Text.decimalValue digits then .error .number
  else .ok (Text.decimalValue digits)

theorem length_behind {p : Char → Bool} {cs behind : List Char} {c : Char}
    (h : cs.dropWhile p = c :: behind) : behind.length < cs.length := by
  have := (List.dropWhile_sublist p (l := cs)).length_le
  rw [h] at this
  exact this

/-- The tokens of a text. -/
def tokens : List Char → Except Fault (List Token)
  | [] => .ok []
  | ['\\'] => .error ⟨['\\'], .danglingEscape⟩
  | '\\' :: c :: rest => (.char c :: ·) <$> tokens rest
  | '[' :: rest =>
    match h : rest.dropWhile (· ≠ ']') with
    | [] => .error ⟨'[' :: rest, .unclosedReference⟩
    | _ :: behind =>
      match groupNumber (rest.takeWhile (· ≠ ']')) with
      | .error kind => .error ⟨'[' :: rest, kind⟩
      | .ok group =>
        have := length_behind h
        (.reference group :: ·) <$> tokens behind
  | c :: rest => (.char c :: ·) <$> tokens rest
termination_by cs => cs.length

/-- Put a character in front of some pieces. -/
def prependChar (c : Char) : List Piece → List Piece
  | .literal text :: rest => .literal (String.singleton c ++ text) :: rest
  | pieces => .literal (String.singleton c) :: pieces

/-- Characters side by side form one literal. -/
def piecesOf : List Token → List Piece
  | [] => []
  | .char c :: rest => prependChar c (piecesOf rest)
  | .reference group :: rest => .group group :: piecesOf rest

def parse (text : String) : Except ParseError Template :=
  match tokens text.toList with
  | .error fault => .error (.ofFault text fault)
  | .ok tokens => .ok ⟨piecesOf tokens⟩

/-- The highest group referred to. -/
def maxGroup (t : Template) : Nat :=
  (t.pieces.map fun | .group n => n | .literal _ => 0).foldl max 0

/-- The ordinals of a span that lies inside the input. -/
def slice (input : List Nat) (span : Span) : List Nat :=
  if span.start ≤ span.stop && span.stop ≤ input.length then
    (input.drop span.start).take (span.stop - span.start)
  else []

def expandPiece (input : List Nat) (captured : Captured) : Piece → String
  | .literal text => text
  | .group n =>
    match captured.last? n with
    | some span => Text.ofUnits (slice input span)
    | none => ""

/-- The text of a template for one match; a group without an occurrence is empty. -/
def expand (t : Template) (input : List Nat) (captured : Captured) : String :=
  String.join (t.pieces.map (expandPiece input captured))

end Template

end Polymatch
