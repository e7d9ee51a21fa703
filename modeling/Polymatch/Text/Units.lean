/-! # Text as code units

Searched text is read as 16-bit code units: a character above the basic plane is
a pair of surrogates. Reading units back is lossy, an unpaired surrogate becomes
the replacement character.
-/

namespace Polymatch.Text

/-- First ordinal that does not fit one unit. -/
def unitLimit : Nat := 0x10000

/-- The units of one character. -/
def charUnits (c : Char) : List Nat :=
  let n := c.toNat
  if n < unitLimit then [n] else [0xD800 + (n - unitLimit) / 0x400, 0xDC00 + (n - unitLimit) % 0x400]

def units (s : String) : List Nat := s.toList.flatMap charUnits

def isHighSurrogate (u : Nat) : Bool := 0xD800 ≤ u && u < 0xDC00

def isLowSurrogate (u : Nat) : Bool := 0xDC00 ≤ u && u < 0xE000

/-- The character of a unit that stands alone. -/
def charOfUnit (u : Nat) : Char :=
  if isHighSurrogate u || isLowSurrogate u then '\uFFFD' else Char.ofNat u

def charsOfUnits : List Nat → List Char
  | [] => []
  | [u] => [charOfUnit u]
  | u :: v :: rest =>
    if isHighSurrogate u && isLowSurrogate v then
      Char.ofNat (unitLimit + (u - 0xD800) * 0x400 + (v - 0xDC00)) :: charsOfUnits rest
    else charOfUnit u :: charsOfUnits (v :: rest)

def ofUnits (l : List Nat) : String := String.ofList (charsOfUnits l)

/-- The bytes of the text's UTF-8 form. -/
def bytes (s : String) : List Nat := s.toUTF8.toList.map UInt8.toNat

/-- The text with the given UTF-8 form. -/
def ofBytes? (l : List Nat) : Option String := String.fromUTF8? ⟨(l.map UInt8.ofNat).toArray⟩

/-- Size of a run of characters in bytes. -/
def byteSize (cs : List Char) : Nat := cs.foldr (fun c size => c.utf8Size + size) 0

end Polymatch.Text
