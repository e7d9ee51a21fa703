import Polymatch.Conventional.Fault
import Polymatch.Conventional.ScalarSet
import Polymatch.Conventional.Tree
import Polymatch.Unicode.Age
import Polymatch.Unicode.Break.Grapheme
import Polymatch.Unicode.Break.Sentence
import Polymatch.Unicode.Break.Word
import Polymatch.Unicode.Category
import Polymatch.Unicode.Property
import Polymatch.Unicode.ScriptExtensions

/-! # Named classes

The members of the classes that have names: shorthands, the classes of basic
characters, and Unicode properties. Names of properties are compared without
regard to case, blanks, hyphens, underscores and a leading "is".
-/

namespace Polymatch.Conventional

open Unicode

namespace AsciiClass

def digits : Interval := ⟨0x30, 0x3A⟩

def members : AsciiClass → List Interval
  | alnum => [digits, Universe.upperLetters, Universe.lowerLetters]
  | alpha => [Universe.upperLetters, Universe.lowerLetters]
  | ascii => [⟨0x00, 0x80⟩]
  | blank => [.single 0x09, .single 0x20]
  | cntrl => [⟨0x00, 0x20⟩, .single 0x7F]
  | digit => [digits]
  | graph => [⟨0x21, 0x7F⟩]
  | lower => [Universe.lowerLetters]
  | print => [⟨0x20, 0x7F⟩]
  | punct => [⟨0x21, 0x30⟩, ⟨0x3A, 0x41⟩, ⟨0x5B, 0x61⟩, ⟨0x7B, 0x7F⟩]
  | space => [⟨0x09, 0x0E⟩, .single 0x20]
  | upper => [Universe.upperLetters]
  | word => [digits, Universe.upperLetters, .single 0x5F, Universe.lowerLetters]
  | xdigit => [digits, ⟨0x41, 0x47⟩, ⟨0x61, 0x67⟩]

end AsciiClass

namespace Shorthand

/-- Scalar values that make up words. -/
def wordScalars : List Interval :=
  Interval.normalize (binaryRuns Property.alphabetic ++
    category.members ["Mc", "Me", "Mn", "Nd", "Pc"] ++ binaryRuns Property.joinControl)

def scalars : Shorthand → List Interval
  | digit => category.members ["Nd"]
  | space => binaryRuns Property.whiteSpace
  | word => wordScalars

def bytes : Shorthand → List Interval
  | digit => AsciiClass.digit.members
  | space => AsciiClass.space.members
  | word => AsciiClass.word.members

def members : Universe → Shorthand → List Interval
  | .scalars => scalars
  | .bytes => bytes

end Shorthand

namespace PropertyQuery

def isSeparator (c : Char) : Bool := c = ' ' || c = '_' || c = '-'

/-- Lower case, without separators and characters outside the basic ones. -/
def lettersOf (cs : List Char) : List Char :=
  (cs.filter fun c => c.toNat < 0x80 && !isSeparator c).map Char.toLower

/-- The form of a name that is compared. A leading "is" counts only in the name of the comment
property, which would be mistaken for a category. -/
def foldName (name : String) : String :=
  match name.toList with
  | a :: b :: rest =>
    if a.toLower = 'i' && b.toLower = 's' then
      let letters := lettersOf rest
      if letters = ['c'] then "isc" else String.ofList letters
    else String.ofList (lettersOf (a :: b :: rest))
  | cs => String.ofList (lettersOf cs)

/-- The members of a general category, or of a group of them. No class has surrogates alone, but
an interval of a class may run across them. -/
def category? (name : String) : Option (List Interval) :=
  match name with
  | "any" => some [⟨0, Universe.scalars.limit⟩]
  | "assigned" => some (Universe.scalars.complement (category.members ["Cn"]))
  | "ascii" => some AsciiClass.ascii.members
  | name =>
    match category.labels? name with
    | some ["Cs"] => none
    | some labels => some (category.members labels)
    | none => none

/-- Short names of other properties that are taken for categories. -/
def categoryFirst : List String := ["cf", "sc", "lc"]

/-- The members of whatever a name stands for. -/
def named? (name : String) : Option (List Interval) :=
  (if categoryFirst.contains name then none else Property.members? name) <|>
    category? name <|> script.named? name

/-- The members of the classes of a property with several values, by the folded name of the value. -/
def valued? : String → Option (String → Option (List Interval))
  | "age" => some assignedBy?
  | "gc" => some category?
  | "generalcategory" => some category?
  | "gcb" => some graphemeBreak.named?
  | "graphemeclusterbreak" => some graphemeBreak.named?
  | "sb" => some sentenceBreak.named?
  | "sentencebreak" => some sentenceBreak.named?
  | "sc" => some script.named?
  | "script" => some script.named?
  | "scx" => some scriptExtension?
  | "scriptextensions" => some scriptExtension?
  | "wb" => some wordBreak.named?
  | "wordbreak" => some wordBreak.named?
  | _ => none

/-- The scalar values that a query asks for. -/
def members : PropertyQuery → Except Fault (List Interval)
  | name n =>
    match named? (foldName n) with
    | some l => .ok l
    | none => .error .propertyNotFound
  | value property v =>
    match valued? (foldName property) with
    | none => .error .propertyNotFound
    | some find? =>
      match find? (foldName v) with
      | none => .error .propertyValueNotFound
      | some l => .ok l

end PropertyQuery

end Polymatch.Conventional
