import Polymatch.Template
import Polymatch.Text.Slice

/-! # Reading templates in place

A template text read character by character, where references are looked up in slices of
the text from their offset on. A literal is held back until a reference or the end.
-/

namespace Polymatch.Template.InPlace

open Text (byteSize sliceFrom)

/-- The pieces with the literal that was held back. -/
def flush (pieces : List Piece) (literal : List Char) : List Piece :=
  if literal.isEmpty then pieces else pieces ++ [.literal (String.ofList literal)]

/-- The digits between the bracket at an offset and the next closing one. -/
def readDigits (text : List Char) (offset : Nat) : Except Halt (List Char × Nat) :=
  match sliceFrom text (offset + 1) with
  | .error halt => .error halt
  | .ok rest =>
    match Text.find? ']' rest with
    | none => .error (.fault offset .unclosedReference)
    | some close => (·, close) <$> Text.slice rest 0 close

/-- Read the characters from an offset on, behind some pieces and a literal. -/
def scan (text : List Char) (offset : Nat) (cs : List Char) (pieces : List Piece) (literal : List Char) :
    Except Halt (List Piece) :=
  match cs with
  | [] => .ok (flush pieces literal)
  | ['\\'] => .error (.fault offset .danglingEscape)
  | '\\' :: c :: rest => scan text (offset + 1 + c.utf8Size) rest pieces (literal ++ [c])
  | '[' :: rest =>
    match readDigits text offset with
    | .error halt => .error halt
    | .ok (digits, close) =>
      match groupNumber digits with
      | .error kind => .error (.fault offset kind)
      | .ok group =>
        -- as many characters are passed over as there are bytes up to the closing bracket
        scan text (offset + 1 + byteSize (rest.take (close + 1))) (rest.drop (close + 1))
          (flush pieces literal ++ [.group group]) []
  | c :: rest => scan text (offset + c.utf8Size) rest pieces (literal ++ [c])
termination_by cs.length

/-- The template of a text, read in place. -/
def parse (text : String) : Except Halt Template := Template.mk <$> scan text.toList 0 text.toList [] []

end Polymatch.Template.InPlace
