import Polymatch.Text.Numeral
import Polymatch.Text.Units

/-! # Alphabets

Automata read ordinals. An alphabet says which ordinals exist and how a group of
them is labelled in drawings.
-/

namespace Polymatch

inductive Alphabet
  /-- 16-bit code units, the alphabet of text. -/
  | units
  /-- Raw bytes. -/
  | bytes
  deriving DecidableEq, Repr, Inhabited

namespace Alphabet

def name : Alphabet → String
  | units => "char"
  | bytes => "byte"

/-- Ordinals lie below this bound. -/
def limit : Alphabet → Nat
  | units => Text.unitLimit
  | bytes => 0x100

def isAsciiGraphic (n : Nat) : Bool := 0x21 ≤ n && n ≤ 0x7e

/-- Blanks above the control characters. -/
def isBlank (n : Nat) : Bool :=
  n == 0xA0 || n == 0x1680 || (0x2000 ≤ n && n ≤ 0x200A) || n == 0x2028 || n == 0x2029 ||
    n == 0x202F || n == 0x205F || n == 0x3000

/-- Label of one ordinal: the symbol where it can be shown, else an escape. -/
def symbolLabel : Alphabet → Nat → String
  | units, n =>
    if isAsciiGraphic n || (0x9f < n && n.isValidChar && !isBlank n) then toString (Char.ofNat n)
    else "\\u" ++ Text.hex true 4 n
  | bytes, n => if isAsciiGraphic n then toString (Char.ofNat n) else "\\x" ++ Text.hex true 2 n

/-- Label of the ordinals from `lo` on and below `hi`; a dot stands for all of them. -/
def label (σ : Alphabet) (lo hi : Nat) : String :=
  if lo = 0 && σ.limit ≤ hi then "."
  else if hi = lo + 1 then σ.symbolLabel lo
  else σ.symbolLabel lo ++ "-" ++ σ.symbolLabel (hi - 1)

end Alphabet

end Polymatch
