import Polymatch.Text.Numeral

/-! # The grammar of pattern texts

What a pattern text is, whatever reads it. All relations here take a text to what is
left of it: `Alternation t u` says that `t` starts with an alternation that `u` is
behind. A text is a pattern if it is an alternation with nothing behind it.
-/

namespace Polymatch.Pattern.Grammar

/-- Letters that stand for a control unit behind a backslash. -/
def controls : List (Char × Nat) :=
  [('n', 0x0A), ('t', 0x09), ('r', 0x0D), ('f', 0x0C), ('v', 0x0B), ('0', 0x00)]

/-- Characters that stand for themselves behind a backslash. -/
def punctuation : List Char :=
  ['\\', '.', '[', ']', '(', ')', '\x7b', '\x7d', '|', '?', '*', '+', '!', '^', '$', '-', '/']

def hexDigits : List (Char × Nat) := "0123456789abcdef".toList.zipIdx ++ "ABCDEF".toList.zipIdx 10

/-- Letters that stand for a class behind a backslash. -/
def classLetters : List Char := ['d', 'D', 'w', 'W', 's', 'S']

/-- What stands for one unit behind a backslash. -/
inductive UnitEscape : List Char → Nat → List Char → Prop
  | control {c : Char} {n : Nat} {t : List Char} : (c, n) ∈ controls → UnitEscape (c :: t) n t
  | punctuation {c : Char} {t : List Char} : c ∈ punctuation → UnitEscape (c :: t) c.toNat t
  | hex {a b c d : Char} {x y z w : Nat} {t : List Char} : (a, x) ∈ hexDigits → (b, y) ∈ hexDigits →
      (c, z) ∈ hexDigits → (d, w) ∈ hexDigits →
        UnitEscape ('u' :: a :: b :: c :: d :: t) (0x1000 * x + 0x100 * y + 0x10 * z + w) t

/-- A character of the basic plane or an escape, in a class. -/
inductive ClassUnit : List Char → Nat → List Char → Prop
  | char {c : Char} {t : List Char} : c ≠ ']' → c ≠ '\\' → c.toNat ≤ 0xFFFF → ClassUnit (c :: t) c.toNat t
  | escape {t u : List Char} {n : Nat} : UnitEscape t n u → ClassUnit ('\\' :: t) n u

/-- The items of a class and its closing bracket. A unit in front of a hyphen starts a range unless
the class is closed behind the hyphen. -/
inductive ClassItems : List Char → List Char → Prop
  | close {t : List Char} : ClassItems (']' :: t) t
  | escape {c : Char} {t u : List Char} : c ∈ classLetters → ClassItems t u → ClassItems ('\\' :: c :: t) u
  | range {t u v w : List Char} {n m : Nat} : ClassUnit t n ('-' :: u) → ClassUnit u m v → n ≤ m →
      ClassItems v w → ClassItems t w
  | unit {t u v : List Char} {n : Nat} : ClassUnit t n u → (∀ c w, u = '-' :: c :: w → c = ']') →
      ClassItems u v → ClassItems t v

/-- What stands behind the opening bracket of a class. A circumflex in the first place negates the
class and is never a unit. -/
inductive Class : List Char → List Char → Prop
  | listed {t u : List Char} : (∀ v, t ≠ '^' :: v) → ClassItems t u → Class t u
  | negated {t u : List Char} : ClassItems t u → Class ('^' :: t) u

/-- A count between 0 and 1000, in decimal digits. -/
inductive Number : List Char → Nat → List Char → Prop
  | decimal {digits t : List Char} : digits ≠ [] → (∀ c ∈ digits, c.isDigit = true) →
      Text.decimalValue digits ≤ 1000 → Number (digits ++ t) (Text.decimalValue digits) t

/-- Some numbers with commas between them. -/
inductive Numbers : List Char → Nat → List Char → Prop
  | one {t u : List Char} {n : Nat} : Number t n u → Numbers t 1 u
  | more {t u v : List Char} {n k : Nat} : Number t n (',' :: u) → Numbers u k v → Numbers t (k + 1) v

/-- What stands between the braces of a quantifier. -/
inductive Counts : List Char → List Char → Prop
  | exactly {t u : List Char} {n : Nat} : Number t n u → Counts t u
  | atLeast {t u : List Char} {n : Nat} : Number t n (',' :: u) → Counts t u
  | between {t u v : List Char} {n m : Nat} : Number t n (',' :: u) → Number u m v → n ≤ m → Counts t v
  | among {t u : List Char} {k : Nat} : Numbers t k u → 3 ≤ k → Counts t u

/-- The mark of an exclusive loop, if there is one. -/
inductive Policy : List Char → List Char → Prop
  | plain {t : List Char} : Policy t t
  | limiting {t : List Char} : Policy ('!' :: t) t
  | extending {t : List Char} : Policy ('^' :: t) t

inductive Quantifier : List Char → List Char → Prop
  | optional {t : List Char} : Quantifier ('?' :: t) t
  | loop {c : Char} {t u : List Char} : c = '*' ∨ c = '+' → Policy t u → Quantifier (c :: t) u
  | counted {t u : List Char} : Counts t ('\x7d' :: u) → Quantifier ('\x7b' :: t) u
  | atLeast {t u v : List Char} {n : Nat} : Number t n (',' :: '\x7d' :: u) → Policy u v →
      Quantifier ('\x7b' :: t) v

inductive Quantifiers : List Char → List Char → Prop
  | none {t : List Char} : Quantifiers t t
  | more {t u v : List Char} : Quantifier t u → Quantifiers u v → Quantifiers t v

/-- Characters that do not stand for themselves outside of classes. -/
def special : List Char := ['(', ')', '[', '|', '?', '*', '+', '\x7b', '\\', '.']

mutual

/-- Sequences with bars between them. -/
inductive Alternation : List Char → List Char → Prop
  | sequence {t u : List Char} : Sequence t u → Alternation t u
  | bar {t u v : List Char} : Sequence t ('|' :: u) → Alternation u v → Alternation t v

/-- Atoms with their quantifiers. -/
inductive Sequence : List Char → List Char → Prop
  | nil {t : List Char} : Sequence t t
  | cons {t u v w : List Char} : Atom t u → Quantifiers u v → Sequence v w → Sequence t w

inductive Atom : List Char → List Char → Prop
  | group {t u : List Char} : Alternation t (')' :: u) → Atom ('(' :: t) u
  | brackets {t u : List Char} : Class t u → Atom ('[' :: t) u
  | any {t : List Char} : Atom ('.' :: t) t
  | escape {t u : List Char} {n : Nat} : UnitEscape t n u → Atom ('\\' :: t) u
  | classEscape {t : List Char} {c : Char} : c ∈ classLetters → Atom ('\\' :: c :: t) t
  | char {t : List Char} {c : Char} : c ∉ special → Atom (c :: t) t

end

theorem Alternation.cons {t u v w : List Char} (ha : Atom t u) (hq : Quantifiers u v) (h : Alternation v w) :
    Alternation t w := by
  cases h with
  | sequence hs => exact .sequence (.cons ha hq hs)
  | bar hs h => exact .bar (.cons ha hq hs) h

theorem atom_escape_iff {t u : List Char} : Atom ('\\' :: t) u ↔
    (∃ n, UnitEscape t n u) ∨ ∃ c ∈ classLetters, t = c :: u := by
  constructor
  · intro h
    cases h with
    | escape h => exact .inl ⟨_, h⟩
    | classEscape hc => exact .inr ⟨_, hc, rfl⟩
    | char hc => exact (hc (by decide)).elim
  · rintro (⟨n, h⟩ | ⟨c, hc, rfl⟩)
    · exact .escape h
    · exact .classEscape hc

end Polymatch.Pattern.Grammar
