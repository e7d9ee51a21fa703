import Polymatch.ParseError
import Polymatch.Pattern.Basic
import Polymatch.Pattern.CaseFold

/-! # Tokens of pattern texts

A pattern text is a sequence of bars, parentheses, atoms and quantifiers. An atom
is a character, an escape or a class between brackets. Errors name the rest of
the text from the construct on that is at fault.
-/

namespace Polymatch.Pattern

/-- Upper bound on the counts of quantifiers. -/
def maxRepeat : Nat := 1000

structure ParseOptions where
  /-- Letters match in either case. -/
  ignoreCase : Bool
  deriving DecidableEq, Repr, Inhabited

inductive Escape
  | unit (u : Nat)
  | ranges (l : List Interval)
  deriving DecidableEq, Repr

namespace Escape

def digits : List Interval := [⟨0x30, 0x3A⟩]

def wordUnits : List Interval := [⟨0x30, 0x3A⟩, ⟨0x41, 0x5B⟩, ⟨0x5F, 0x60⟩, ⟨0x61, 0x7B⟩]

def spaces : List Interval := [⟨0x09, 0x0E⟩, ⟨0x20, 0x21⟩]

/-- All units outside some ascending intervals. -/
def other (l : List Interval) : List Interval := Interval.complement l Text.unitLimit

/-- Escapes of a single letter. -/
def named? : Char → Option Escape
  | 'n' => some (unit 0x0A)
  | 't' => some (unit 0x09)
  | 'r' => some (unit 0x0D)
  | 'f' => some (unit 0x0C)
  | 'v' => some (unit 0x0B)
  | '0' => some (unit 0x00)
  | 'd' => some (ranges digits)
  | 'D' => some (ranges (other digits))
  | 'w' => some (ranges wordUnits)
  | 'W' => some (ranges (other wordUnits))
  | 's' => some (ranges spaces)
  | 'S' => some (ranges (other spaces))
  | _ => none

/-- Characters that stand for themselves behind a backslash. -/
def metacharacters : List Char :=
  ['\\', '.', '[', ']', '(', ')', '\x7b', '\x7d', '|', '?', '*', '+', '!', '^', '$', '-', '/']

def hexDigit? (c : Char) : Option Nat :=
  if c.isDigit then some (c.toNat - 48)
  else if 'a' ≤ c ∧ c ≤ 'f' then some (c.toNat - 87)
  else if 'A' ≤ c ∧ c ≤ 'F' then some (c.toNat - 55)
  else none

/-- The unit with four given hexadecimal digits. -/
def unitOfHex? (a b c d : Char) : Option Nat := do
  return 0x1000 * (← hexDigit? a) + 0x100 * (← hexDigit? b) + 0x10 * (← hexDigit? c) + (← hexDigit? d)

/-- Read what follows a backslash. -/
def read : List Char → Except ParseErrorKind (Escape × List Char)
  | [] => .error .danglingEscape
  | 'u' :: a :: b :: c :: d :: rest =>
    match unitOfHex? a b c d with
    | some u => .ok (unit u, rest)
    | none => .error .invalidUnicodeEscape
  | 'u' :: _ => .error .invalidUnicodeEscape
  | c :: rest =>
    match named? c with
    | some e => .ok (e, rest)
    | none => if metacharacters.contains c then .ok (unit c.toNat, rest) else .error (.unknownEscape c)

theorem length_read {cs rest : List Char} {e : Escape} (h : read cs = .ok (e, rest)) :
    rest.length < cs.length := by
  unfold read at h
  split at h
  · cases h
  · split at h <;> cases h
    simp only [List.length_cons]
    omega
  · cases h
  · split at h
    · cases h
      exact Nat.lt_succ_self _
    · split at h <;> cases h
      exact Nat.lt_succ_self _

end Escape

/-- Read one unit or class escape of the class that starts at `opened`. -/
def readClassAtom (opened : List Char) : List Char → Except Fault (Escape × List Char)
  | [] => .error ⟨opened, .unclosedClass⟩
  | '\\' :: rest =>
    match Escape.read rest with
    | .error kind => .error ⟨'\\' :: rest, kind⟩
    | .ok read => .ok read
  | c :: rest =>
    if c.toNat < Text.unitLimit then .ok (.unit c.toNat, rest)
    else .error ⟨c :: rest, .outOfRange c⟩

theorem length_readClassAtom {opened cs rest : List Char} {e : Escape}
    (h : readClassAtom opened cs = .ok (e, rest)) : rest.length < cs.length := by
  unfold readClassAtom at h
  split at h
  · cases h
  · split at h
    · cases h
    · rename_i hr
      cases h
      exact Nat.lt_succ_of_lt (Escape.length_read hr)
  · split at h <;> cases h
    exact Nat.lt_succ_self _

/-- Read the upper end of the range that starts with unit `lo` at `item`. -/
def readRangeEnd (opened item : List Char) (lo : Nat) (cs : List Char) :
    Except Fault (Interval × List Char) :=
  match readClassAtom opened cs with
  | .error fault => .error fault
  | .ok (.ranges _, _) => .error ⟨item, .invalidRange (Text.charOfUnit lo) '\\'⟩
  | .ok (.unit hi, rest) =>
    if hi < lo then .error ⟨item, .invalidRange (Text.charOfUnit lo) (Text.charOfUnit hi)⟩
    else .ok (⟨lo, hi + 1⟩, rest)

theorem length_readRangeEnd {opened item cs rest : List Char} {lo : Nat} {i : Interval}
    (h : readRangeEnd opened item lo cs = .ok (i, rest)) : rest.length < cs.length := by
  unfold readRangeEnd at h
  split at h
  · cases h
  · cases h
  · rename_i hr
    split at h <;> cases h
    exact length_readClassAtom hr

/-- Read one item of a class: a unit, a range of units or a class escape. -/
def readClassItem (opened cs : List Char) : Except Fault (List Interval × List Char) :=
  match readClassAtom opened cs with
  | .error fault => .error fault
  | .ok (.ranges l, rest) => .ok (l, rest)
  | .ok (.unit lo, '-' :: c :: rest) =>
    if c = ']' then .ok ([.single lo], '-' :: c :: rest)
    else (fun (i, rest) => ([i], rest)) <$> readRangeEnd opened cs lo (c :: rest)
  | .ok (.unit lo, rest) => .ok ([.single lo], rest)

theorem length_readClassItem {opened cs rest : List Char} {l : List Interval}
    (h : readClassItem opened cs = .ok (l, rest)) : rest.length < cs.length := by
  unfold readClassItem at h
  split at h
  · cases h
  · rename_i hr
    cases h
    exact length_readClassAtom hr
  · rename_i lo c tail hr
    have hl := length_readClassAtom hr
    split at h
    · cases h
      exact hl
    · cases he : readRangeEnd opened cs lo (c :: tail) with
      | error fault => rw [he] at h; cases h
      | ok read =>
        obtain ⟨i, behind⟩ := read
        rw [he] at h
        cases h
        have := length_readRangeEnd he
        simp only [List.length_cons] at hl this
        omega
  · rename_i hr
    cases h
    exact length_readClassAtom hr

/-- Read the items of a class up to its closing bracket. -/
def readClassItems (opened : List Char) : List Char → Except Fault (List Interval × List Char)
  | ']' :: rest => .ok ([], rest)
  | cs =>
    match h : readClassItem opened cs with
    | .error fault => .error fault
    | .ok (l, rest) =>
      have := length_readClassItem h
      (fun (later, rest) => (l ++ later, rest)) <$> readClassItems opened rest
termination_by cs => cs.length

theorem length_readClassItems {opened cs rest : List Char} {l : List Interval}
    (h : readClassItems opened cs = .ok (l, rest)) : rest.length < cs.length := by
  fun_induction readClassItems opened cs generalizing l rest with
  | case1 => cases h; exact Nat.lt_succ_self _
  | case2 => cases h
  | case3 cs _ _ behind hi hlt ih =>
    cases hr : readClassItems opened behind with
    | error fault => rw [hr] at h; cases h
    | ok read =>
      obtain ⟨later, rest'⟩ := read
      rw [hr] at h
      cases h
      exact Nat.lt_trans (ih hr) hlt

/-- The ascending intervals of a class with given items. -/
def classRanges (options : ParseOptions) (negated : Bool) (items : List Interval) : List Interval :=
  let ranges := Interval.normalize items
  let ranges := if options.ignoreCase then foldCase ranges else ranges
  if negated then Interval.complement ranges Text.unitLimit else ranges

/-- Read the items of the class that starts at `opened`. -/
def readClassBody (options : ParseOptions) (opened : List Char) (negated : Bool) (cs : List Char) :
    Except Fault (Pattern × List Char) :=
  match readClassItems opened cs with
  | .error fault => .error fault
  | .ok (l, rest) => .ok (symbols (classRanges options negated l), rest)

/-- Read what follows the opening bracket of a class. -/
def readClass (options : ParseOptions) : List Char → Except Fault (Pattern × List Char)
  | '^' :: cs => readClassBody options ('[' :: '^' :: cs) true cs
  | cs => readClassBody options ('[' :: cs) false cs

theorem length_readClassBody {options : ParseOptions} {opened cs rest : List Char} {negated : Bool}
    {p : Pattern} (h : readClassBody options opened negated cs = .ok (p, rest)) :
    rest.length < cs.length := by
  unfold readClassBody at h
  split at h <;> cases h
  rename_i hr
  exact length_readClassItems hr

theorem length_readClass {options : ParseOptions} {cs rest : List Char} {p : Pattern}
    (h : readClass options cs = .ok (p, rest)) : rest.length < cs.length := by
  unfold readClass at h
  split at h
  · exact Nat.lt_succ_of_lt (length_readClassBody h)
  · exact length_readClassBody h

def ofUnit (options : ParseOptions) (u : Nat) : Pattern :=
  if options.ignoreCase then symbols (foldCase [.single u]) else symbol u

/-- A character outside the basic plane is a pair of units. -/
def ofChar (options : ParseOptions) (c : Char) : Pattern :=
  match Text.charUnits c with
  | [u] => ofUnit options u
  | units => sequence (units.map symbol)

inductive Quantifier
  | optional
  | loop (min : Nat) (policy : LoopPolicy)
  | times (counts : List Nat)
  deriving DecidableEq, Repr

namespace Quantifier

def apply : Quantifier → Pattern → Pattern
  | optional, p => .optional p
  | loop min policy, p => .loop p min policy
  | times counts, p => p.times counts

/-- Read the mark of an exclusive loop, if there is one. -/
def readPolicy : List Char → LoopPolicy × List Char
  | '!' :: rest => (.limiting, rest)
  | '^' :: rest => (.extending, rest)
  | rest => (.plain, rest)

theorem length_readPolicy (cs : List Char) : (readPolicy cs).2.length ≤ cs.length := by
  unfold readPolicy
  split <;> simp

/-- The count with given digits; there may be none. -/
def count (digits : List Char) : Except ParseErrorKind (Option Nat) :=
  if digits.isEmpty then .ok none
  else
    let n := Text.decimalValue digits
    if UInt32.size ≤ n then .error .number
    else if maxRepeat < n then .error (.invalidQuantifier (.countTooLarge n maxRepeat))
    else .ok (some n)

theorem length_dropDigits {cs rest : List Char} {c : Char} (h : cs.dropWhile Char.isDigit = c :: rest) :
    rest.length < cs.length := by
  have := (List.dropWhile_sublist Char.isDigit (l := cs)).length_le
  rw [h] at this
  exact this

/-- Read counts separated by commas up to the closing brace. -/
def readCounts (opened cs : List Char) : Except Fault (List (Option Nat) × List Char) :=
  match count (cs.takeWhile Char.isDigit) with
  | .error kind => .error ⟨cs, kind⟩
  | .ok value =>
    match h : cs.dropWhile Char.isDigit with
    | ',' :: rest =>
      have := length_dropDigits h
      (fun (later, rest) => (value :: later, rest)) <$> readCounts opened rest
    | '\x7d' :: rest => .ok ([value], rest)
    | _ => .error ⟨opened, .invalidQuantifier .separatorExpected⟩
termination_by cs.length

theorem length_readCounts {opened cs rest : List Char} {values : List (Option Nat)}
    (h : readCounts opened cs = .ok (values, rest)) : rest.length < cs.length := by
  fun_induction readCounts opened cs generalizing values rest with
  | case1 => cases h
  | case2 cs value hv behind hd hlt ih =>
    cases hr : readCounts opened behind with
    | error fault => rw [hr] at h; cases h
    | ok read =>
      obtain ⟨later, rest'⟩ := read
      rw [hr] at h
      cases h
      exact Nat.lt_trans (ih hr) hlt
  | case3 cs value hv behind hd => cases h; exact length_dropDigits hd
  | case4 => cases h

/-- The quantifier with given counts, in front of `rest`. -/
def ofCounts (values : List (Option Nat)) (rest : List Char) :
    Except QuantifierFault (Quantifier × List Char) :=
  match values with
  | [some n] => .ok (times [n], rest)
  | [some min, none] =>
    let (policy, rest) := readPolicy rest
    .ok (loop min policy, rest)
  | [some min, some max] =>
    if min ≤ max then .ok (times (List.range' min (max + 1 - min)), rest)
    else .error (.minAboveMax min max)
  | values =>
    if 2 < values.length && values.all Option.isSome then .ok (times (values.filterMap id), rest)
    else .error .missingCount

theorem length_ofCounts {values : List (Option Nat)} {cs rest : List Char} {q : Quantifier}
    (h : ofCounts values cs = .ok (q, rest)) : rest.length ≤ cs.length := by
  unfold ofCounts at h
  split at h
  · cases h; exact Nat.le_refl _
  · cases h; exact length_readPolicy cs
  · split at h <;> cases h; exact Nat.le_refl _
  · split at h <;> cases h; exact Nat.le_refl _

/-- Read what follows the opening brace of a quantifier. -/
def readBraced (cs : List Char) : Except Fault (Quantifier × List Char) :=
  match readCounts ('\x7b' :: cs) cs with
  | .error fault => .error fault
  | .ok (values, rest) =>
    match ofCounts values rest with
    | .error fault => .error ⟨'\x7b' :: cs, .invalidQuantifier fault⟩
    | .ok read => .ok read

theorem length_readBraced {cs rest : List Char} {q : Quantifier}
    (h : readBraced cs = .ok (q, rest)) : rest.length < cs.length := by
  unfold readBraced at h
  split at h
  · cases h
  · rename_i hr
    split at h
    · cases h
    · rename_i hq
      cases h
      exact Nat.lt_of_le_of_lt (length_ofCounts hq) (length_readCounts hr)

end Quantifier

inductive Token
  | bar
  | opening
  | closing
  | atom (p : Pattern)
  | quantifier (q : Quantifier)
  /-- An atom that is not well formed. -/
  | badAtom (fault : Fault)
  /-- A quantifier that is not well formed. -/
  | badQuantifier (fault : Fault)
  deriving Repr

namespace Token

/-- A token as read, or one that stands for the fault. -/
def ofRead {α : Type} (good : α → Token) (bad : Fault → Token) :
    Except Fault (α × List Char) → Token × List Char
  | .ok (a, rest) => (good a, rest)
  | .error fault => (bad fault, [])

/-- Read the loop quantifier behind its sign. -/
def readLoop (min : Nat) (cs : List Char) : Token × List Char :=
  let (policy, rest) := Quantifier.readPolicy cs
  (quantifier (.loop min policy), rest)

/-- Read the escape behind a backslash as an atom. -/
def readEscape (options : ParseOptions) (cs : List Char) : Token × List Char :=
  match Escape.read cs with
  | .ok (.unit u, rest) => (atom (ofUnit options u), rest)
  | .ok (.ranges l, rest) => (atom (ofRanges l), rest)
  | .error kind => (badAtom ⟨'\\' :: cs, kind⟩, [])

/-- Read the token that starts with a character. Nothing follows a token that is not well
formed. -/
def read (options : ParseOptions) (c : Char) (rest : List Char) : Token × List Char :=
  match c with
  | '|' => (bar, rest)
  | '(' => (opening, rest)
  | ')' => (closing, rest)
  | '.' => (atom any, rest)
  | '[' => ofRead atom badAtom (readClass options rest)
  | '\\' => readEscape options rest
  | '?' => (quantifier .optional, rest)
  | '*' => readLoop 0 rest
  | '+' => readLoop 1 rest
  | '\x7b' => ofRead quantifier badQuantifier (Quantifier.readBraced rest)
  | c => (atom (ofChar options c), rest)

theorem length_ofRead {α : Type} {good : α → Token} {bad : Fault → Token} {cs : List Char}
    {read : Except Fault (α × List Char)}
    (h : ∀ {a rest}, read = .ok (a, rest) → rest.length < cs.length) :
    (ofRead good bad read).2.length ≤ cs.length := by
  unfold ofRead
  split
  · exact Nat.le_of_lt (h rfl)
  · exact Nat.zero_le _

theorem length_readEscape (options : ParseOptions) (cs : List Char) :
    (readEscape options cs).2.length ≤ cs.length := by
  unfold readEscape
  split
  · rename_i h; exact Nat.le_of_lt (Escape.length_read h)
  · rename_i h; exact Nat.le_of_lt (Escape.length_read h)
  · exact Nat.zero_le _

theorem length_read (options : ParseOptions) (c : Char) (rest : List Char) :
    (read options c rest).2.length ≤ rest.length := by
  unfold read
  split
  case h_5 => exact length_ofRead length_readClass
  case h_6 => exact length_readEscape options rest
  case h_8 => exact Quantifier.length_readPolicy rest
  case h_9 => exact Quantifier.length_readPolicy rest
  case h_10 => exact length_ofRead Quantifier.length_readBraced
  all_goals exact Nat.le_refl _

end Token

/-- A token with the text from its start on. -/
structure Lexeme where
  text : List Char
  token : Token
  deriving Repr

/-- The tokens of a text, up to the first one that is not well formed. -/
def lexemes (options : ParseOptions) : List Char → List Lexeme
  | [] => []
  | c :: cs =>
    have := Token.length_read options c cs
    ⟨c :: cs, (Token.read options c cs).1⟩ :: lexemes options (Token.read options c cs).2
termination_by cs => cs.length

end Polymatch.Pattern
