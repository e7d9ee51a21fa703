import Polymatch.Unicode.Category
import Polymatch.Unicode.Property

/-! # Recent characters

Edition 17 of the character data adds characters to those of the other tables.
The names of properties in patterns do not speak of them, but quoting and the
names of groups do: the predicates of this module are those of edition 17.
-/

namespace Polymatch.Unicode.Recent

/-- Categories along the code points, each with its run length; dashes leave the category as it
was. -/
def categoryChanges : List String :=
  ["--295 Lo1 --5f9 Lo1 --3cc Lo1 --7f Lo1 --df2 Mnf --2 Mnc --5d5 Sc1 --ad4 So1 --7c37 Lu1 Ll1",
   "--2 Lu1 --1 Lu1 --1c Lm1 --53d1 So10 --1bd So2 --36 So7 --b71 Lo1a --56b Lm1 Lo2 --8 Po1 So8",
   "--21 Mn2 --c64 Mn1 Mc1 Mn3 Mc1 Mn1 Mc1 --248 Lo29 Lm1 Lo2 --4 Nda --50b6 Lu19 --2 Ll19 --11e",
   "Lm2 Nl3 --1801 Lo8 --509 Lo16 --61 Lo73 --3f07 So3 --1bd So17 --f So10 Sm1 --17cf Lo1f --1",
   "Lo3 Mn1 Lo2 Mn1 Lo7 Mn2 Lo5 Mn1 --8 Lo1 Lm1 --fd8 So1 --9e So4 --155 Sm9 --17b So4 --32 So1",
   "--3 So1 --39 So1 --4 So1 --1c So1 --4 So1 --10a So1 --bb3f Lo6 --1762 Loc --5502 Lo10ca",
   "--dcb86"]

def changes : List (String × Interval) := (taggedRuns 2 categoryChanges).filter (·.1 != "--")

/-- Further alphabetic code points. -/
def alphabeticAdditions : List String :=
  ["88f 1 3cc 1 7f 1 9af1 2 2 1 1 1 1c 1 614e 1a 56b 3 32 2 c64 8 248 2c 50c4 19 2 19 11e 5 1801",
   "8 509 16 61 73 58cd 1f 1 16 8 2 d03a 6 1762 c 5502 10ca"]

/-- Further code points that extend the character before them. -/
def graphemeExtendAdditions : List String :=
  ["1acf f 2 c f40e 2 c64 1 1 3 1 1 cb7c 1 2 1 7 2 5 1"]

/-- The general category of a code point. -/
def categoryOf (n : Nat) : String :=
  match changes.find? (·.2.contains n) with
  | some (label, _) => label
  | none => (category.label? n).getD "Cn"

def alphabetic : List Interval :=
  binaryRuns Property.alphabetic ++ binaryRuns alphabeticAdditions

def isAlphabetic (n : Nat) : Bool := Interval.covers alphabetic n

def isNumeric (n : Nat) : Bool := ["Nd", "Nl", "No"].contains (categoryOf n)

def isMark (n : Nat) : Bool := ["Mc", "Me", "Mn"].contains (categoryOf n)

def graphemeExtend : List Interval :=
  binaryRuns Property.graphemeExtend ++ binaryRuns graphemeExtendAdditions

/-- Whether a code point extends the character before it. -/
def isGraphemeExtend (n : Nat) : Bool := Interval.covers graphemeExtend n

end Polymatch.Unicode.Recent
