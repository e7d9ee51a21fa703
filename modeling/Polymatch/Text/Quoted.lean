import Polymatch.Text.Numeral
import Polymatch.Unicode.Property
import Polymatch.Unicode.Recent

/-! # Quoted text

Messages show characters and strings between quotes. The quote itself, the
backslash, characters without a visible form and marks that extend the character
before them are escaped.
-/

namespace Polymatch.Text

/-- The categories of characters without a visible form. -/
def invisibleCategories : List String := ["Cc", "Cf", "Cs", "Co", "Cn", "Zl", "Zp", "Zs"]

/-- Characters that are passed over in display, such as fillers. -/
def ignoredInDisplay : List Interval := Unicode.binaryRuns Unicode.Property.defaultIgnorableCodePoint

/-- Whether a character has a visible form; of the blanks only the plain one has. -/
def isPrintable (c : Char) : Bool :=
  let n := c.toNat
  if n < 0x7f then 0x20 ≤ n
  else !invisibleCategories.contains (Unicode.Recent.categoryOf n) &&
    !Interval.covers ignoredInDisplay n

/-- Whether a character is a mark that attaches to the one before it. -/
def isAttachedMark (c : Char) : Bool :=
  0x300 ≤ c.toNat && Unicode.Recent.isMark c.toNat && Unicode.Recent.isGraphemeExtend c.toNat

/-- A character as it stands between the quotes `quote`. -/
def escapeChar (quote c : Char) : List Char :=
  match c with
  | '\x00' => ['\\', '0']
  | '\t' => ['\\', 't']
  | '\r' => ['\\', 'r']
  | '\n' => ['\\', 'n']
  | '\\' => ['\\', '\\']
  | c =>
    if c = quote then ['\\', c]
    else if isAttachedMark c || !isPrintable c then
      ['\\', 'u', '\x7b'] ++ hexDigits false c.toNat ++ ['\x7d']
    else [c]

def quotedChar (c : Char) : String := String.ofList ('\'' :: escapeChar '\'' c ++ ['\''])

def quoted (s : String) : String := String.ofList ('"' :: s.toList.flatMap (escapeChar '"') ++ ['"'])

end Polymatch.Text
