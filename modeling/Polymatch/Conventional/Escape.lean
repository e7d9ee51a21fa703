import Polymatch.Conventional.Fault
import Polymatch.Conventional.Tree
import Polymatch.Interval
import Polymatch.Text.Numeral
import Polymatch.Unicode.Property

/-! # Escapes of the conventional syntax

What follows a backslash: a character that stands for itself, a character given by
its number, a class or an assertion. Under the verbose flag blanks and comments
may stand inside an escape.
-/

namespace Polymatch.Conventional

def isBlank (c : Char) : Bool :=
  Interval.covers (Unicode.binaryRuns Unicode.Property.whiteSpace) c.toNat

/-- Drop leading blanks and comments, from inside a comment or not. -/
def skipFrom (comment : Bool) : List Char → List Char
  | [] => []
  | c :: rest =>
    if comment then skipFrom (c ≠ '\n') rest
    else if isBlank c then skipFrom false rest
    else if c = '#' then skipFrom true rest
    else c :: rest

/-- Drop what the verbose flag makes insignificant. -/
def skip (verbose : Bool) (cs : List Char) : List Char := if verbose then skipFrom false cs else cs

namespace Escape

def isHexDigit (c : Char) : Bool :=
  c.isDigit || ('a' ≤ c && c ≤ 'f') || ('A' ≤ c && c ≤ 'F')

def hexDigitValue (c : Char) : Nat :=
  if c.isDigit then c.toNat - 48 else if c ≤ 'F' then c.toNat - 55 else c.toNat - 87

def hexValue (digits : List Char) : Nat := digits.foldl (fun n c => 16 * n + hexDigitValue c) 0

/-- The character with a number given by hexadecimal digits. -/
def charOfHex (digits : List Char) : Except Fault Char :=
  let n := hexValue digits
  if n.isValidChar then .ok (Char.ofNat n) else .error .escapeHexInvalid

/-- Read a fixed number of hexadecimal digits. -/
def readDigits (verbose : Bool) : Nat → List Char → Except Fault (List Char × List Char)
  | 0, cs => .ok ([], cs)
  | _ + 1, [] => .error .escapeUnexpectedEnd
  | n + 1, c :: rest =>
    if isHexDigit c then do
      let (digits, rest) ← readDigits verbose n (skip verbose rest)
      return (c :: digits, rest)
    else .error .escapeHexInvalidDigit

/-- The characters up to a closing brace, without insignificant ones. -/
def readBraced (verbose : Bool) : Nat → List Char → Except Fault (List Char × List Char)
  | 0, _ => .error .escapeUnexpectedEnd
  | fuel + 1, cs =>
    match skip verbose cs with
    | [] => .error .escapeUnexpectedEnd
    | '\x7d' :: rest => .ok ([], rest)
    | c :: rest => do
      let (inside, rest) ← readBraced verbose fuel rest
      return (c :: inside, rest)

/-- Read a character given by its number: so many digits, or any number between braces. -/
def readHex (verbose : Bool) (width : Nat) (cs : List Char) : Except Fault (Literal × List Char) :=
  match skip verbose cs with
  | [] => .error .escapeUnexpectedEnd
  | '\x7b' :: cs => do
    let (digits, rest) ← readBraced verbose (cs.length + 1) cs
    if !digits.all isHexDigit then .error .escapeHexInvalidDigit
    else if digits.isEmpty then .error .escapeHexEmpty
    else return (⟨← charOfHex digits, false⟩, skip verbose rest)
  | cs => do
    let (digits, rest) ← readDigits verbose width cs
    return (⟨← charOfHex digits, width = 2⟩, rest)

/-- The parts of a text around the first occurrence of a separator. -/
def splitAround (separator : List Char) : List Char → Option (List Char × List Char)
  | [] => none
  | c :: rest =>
    if separator.isPrefixOf (c :: rest) then some ([], (c :: rest).drop separator.length)
    else (splitAround separator rest).map fun (before, behind) => (c :: before, behind)

/-- The query between the braces of a property class, and whether it is the negative. -/
def queryOf (text : List Char) : PropertyQuery × Bool :=
  let valueQuery := fun (parts : List Char × List Char) =>
    PropertyQuery.value (String.ofList parts.1) (String.ofList parts.2)
  match splitAround ['!', '='] text with
  | some parts => (valueQuery parts, true)
  | none =>
    match splitAround [':'] text <|> splitAround ['='] text with
    | some parts => (valueQuery parts, false)
    | none => (.name (String.ofList text), false)

/-- Read the query of a property class: a letter, or a text between braces. -/
def readProperty (verbose negated : Bool) (cs : List Char) : Except Fault (Atom × List Char) :=
  match skip verbose cs with
  | [] => .error .escapeUnexpectedEnd
  | '\x7b' :: cs => do
    let (text, rest) ← readBraced verbose (cs.length + 1) cs
    let (query, inverted) := queryOf text
    return (.property query (negated != inverted), rest)
  | '\\' :: _ => .error .unicodeClassInvalid
  | c :: rest => .ok (.property (.name (String.singleton c)) negated, skip verbose rest)

/-- Characters with a meaning of their own, which a backslash takes away. -/
def metacharacters : List Char :=
  ['\\', '.', '+', '*', '?', '(', ')', '|', '[', ']', '\x7b', '\x7d', '^', '$', '#', '&', '-', '~']

/-- Whether a backslash in front of a character is allowed without need. -/
def isPlain (c : Char) : Bool := c.toNat < 0x80 && !c.isAlphanum && c ≠ '<' && c ≠ '>'

def isBoundaryLetter (c : Char) : Bool := c.isAlpha || c = '-'

/-- Read the letters of the name of a boundary, up to the closing brace. -/
def readBoundaryName (verbose : Bool) : Nat → List Char → List Char × List Char
  | 0, cs => ([], cs)
  | _ + 1, [] => ([], [])
  | fuel + 1, c :: rest =>
    if isBoundaryLetter c then
      let (name, rest) := readBoundaryName verbose fuel (skip verbose rest)
      (c :: name, rest)
    else ([], c :: rest)

def boundaryNamed? : String → Option Assertion
  | "start" => some .wordStart
  | "end" => some .wordEnd
  | "start-half" => some .wordStartHalf
  | "end-half" => some .wordEndHalf
  | _ => none

/-- Read what follows a word boundary escape. Braces that start with no letter are counts. -/
def readBoundary (verbose : Bool) : List Char → Except Fault (Assertion × List Char)
  | '\x7b' :: cs =>
    match skip verbose cs with
    | [] => .error .wordBoundaryUnclosed
    | c :: rest =>
      if isBoundaryLetter c then
        match readBoundaryName verbose (rest.length + 2) (c :: rest) with
        | (name, '\x7d' :: rest) =>
          match boundaryNamed? (String.ofList name) with
          | some assertion => .ok (assertion, rest)
          | none => .error .wordBoundaryUnrecognized
        | _ => .error .wordBoundaryUnclosed
      else .ok (.wordBoundary, '\x7b' :: cs)
  | cs => .ok (.wordBoundary, cs)

def character (c : Char) : Atom := .literal ⟨c, false⟩

/-- Escapes of a single letter. -/
def named? : Char → Option Atom
  | 'd' => some (.shorthand .digit false)
  | 'D' => some (.shorthand .digit true)
  | 's' => some (.shorthand .space false)
  | 'S' => some (.shorthand .space true)
  | 'w' => some (.shorthand .word false)
  | 'W' => some (.shorthand .word true)
  | 'a' => some (character '\x07')
  | 'f' => some (character '\x0c')
  | 't' => some (character '\t')
  | 'n' => some (character '\n')
  | 'r' => some (character '\r')
  | 'v' => some (character '\x0b')
  | 'A' => some (.assertion .textStart)
  | 'z' => some (.assertion .textEnd)
  | 'B' => some (.assertion .notWordBoundary)
  | '<' => some (.assertion .wordStart)
  | '>' => some (.assertion .wordEnd)
  | _ => none

/-- Read what follows a backslash. -/
def read (verbose : Bool) : List Char → Except Fault (Atom × List Char)
  | [] => .error .escapeUnexpectedEnd
  | 'x' :: rest => (fun (l, rest) => (.literal l, rest)) <$> readHex verbose 2 rest
  | 'u' :: rest => (fun (l, rest) => (.literal l, rest)) <$> readHex verbose 4 rest
  | 'U' :: rest => (fun (l, rest) => (.literal l, rest)) <$> readHex verbose 8 rest
  | 'p' :: rest => readProperty verbose false rest
  | 'P' :: rest => readProperty verbose true rest
  | 'b' :: rest => (fun (a, rest) => (.assertion a, rest)) <$> readBoundary verbose rest
  | c :: rest =>
    if c.isDigit then .error .unsupportedBackreference
    else if metacharacters.contains c || isPlain c then .ok (character c, rest)
    else match named? c with
      | some atom => .ok (atom, rest)
      | none => .error .escapeUnrecognized

end Escape

end Polymatch.Conventional
