import Polymatch.Conventional.Escape

/-! # Classes between brackets

A class is a union of items, or several unions joined by set operators, which are
all of one rank and group to the left. Classes nest.
-/

namespace Polymatch.Conventional

/-- A class that is being read; items are held latest first. -/
structure OpenClass where
  negated : Bool
  items : List ClassSet
  /-- The operands in front of the latest operator, with that operator. -/
  pending? : Option (ClassSet × SetOperator)

namespace OpenClass

def push (c : OpenClass) (item : ClassSet) : OpenClass := { c with items := item :: c.items }

/-- All that has been read so far as one set. -/
def contents (c : OpenClass) : ClassSet :=
  let items := ClassSet.ofItems c.items.reverse
  match c.pending? with
  | none => items
  | some (lhs, op) => .operation op lhs items

/-- Go on behind a set operator. -/
def operator (c : OpenClass) (op : SetOperator) : OpenClass :=
  { c with items := [], pending? := some (c.contents, op) }

def close (c : OpenClass) : ClassSet := .bracketed c.negated c.contents

end OpenClass

namespace AsciiClass

def named? : String → Option AsciiClass
  | "alnum" => some alnum
  | "alpha" => some alpha
  | "ascii" => some ascii
  | "blank" => some blank
  | "cntrl" => some cntrl
  | "digit" => some digit
  | "graph" => some graph
  | "lower" => some lower
  | "print" => some print
  | "punct" => some punct
  | "space" => some space
  | "upper" => some upper
  | "word" => some word
  | "xdigit" => some xdigit
  | _ => none

/-- Read the rest of a named class behind its name's start, if it is one. -/
def readName? (negated : Bool) (cs : List Char) : Option (ClassSet × List Char) :=
  match cs.dropWhile (· ≠ ':') with
  | ':' :: ']' :: rest =>
    (named? (String.ofList (cs.takeWhile (· ≠ ':')))).map fun kind => (.ascii kind negated, rest)
  | _ => none

/-- Read a named class behind its opening bracket, if it is one. -/
def read? : List Char → Option (ClassSet × List Char)
  | ':' :: '^' :: cs => readName? true cs
  | ':' :: cs => readName? false cs
  | _ => none

end AsciiClass

namespace ClassSet

def dash : ClassSet := literal ⟨'-', false⟩

/-- Read one character or escape of a class. -/
def readAtom (verbose : Bool) : List Char → Except Fault (Atom × List Char)
  | [] => .error .classUnclosed
  | '\\' :: rest => Escape.read verbose rest
  | c :: rest => .ok (.literal ⟨c, false⟩, rest)

def ofAtom : Atom → Except Fault ClassSet
  | .literal l => .ok (literal l)
  | .shorthand kind negated => .ok (shorthand kind negated)
  | .property query negated => .ok (property query negated)
  | .assertion _ => .error .classEscapeInvalid

/-- The range between two atoms. -/
def between : Atom → Atom → Except Fault ClassSet
  | .literal lo, .literal hi => if lo.char ≤ hi.char then .ok (range lo hi) else .error .classRangeInvalid
  | _, _ => .error .classRangeLiteral

/-- The next significant character, for telling whether a dash makes a range. A look ahead past a
comment sign goes no further than to the first character of the comment. -/
def lookAhead? (verbose : Bool) (cs : List Char) : Option Char :=
  if verbose then
    match cs.dropWhile isBlank with
    | '#' :: comment => (comment.dropWhile isBlank).head?
    | rest => rest.head?
  else cs.head?

/-- Read an item: a character, a range of characters or an escape. -/
def readItem (verbose : Bool) (cs : List Char) : Except Fault (ClassSet × List Char) := do
  let (first, rest) ← readAtom verbose cs
  match skip verbose rest with
  | [] => .error .classUnclosed
  | '-' :: behind =>
    let next? := lookAhead? verbose behind
    if next? = some ']' || next? = some '-' then return (← ofAtom first, '-' :: behind)
    else
      let (last, rest) ← readAtom verbose (skip verbose behind)
      return (← between first last, rest)
  | rest => return (← ofAtom first, rest)

/-- Read leading dashes, which stand for themselves. -/
def readDashes (verbose : Bool) : Nat → OpenClass → List Char → OpenClass × List Char
  | fuel + 1, c, '-' :: rest => readDashes verbose fuel (c.push dash) (skip verbose rest)
  | _, c, cs => (c, cs)

/-- Read what may stand behind an opening bracket only: the sign of negation, dashes, or a closing
bracket that stands for itself. -/
def readOpening (verbose : Bool) (cs : List Char) : OpenClass × List Char :=
  let cs := skip verbose cs
  let (negated, cs) := match cs with
    | '^' :: rest => (true, skip verbose rest)
    | _ => (false, cs)
  match readDashes verbose cs.length ⟨negated, [], none⟩ cs with
  | (⟨negated, [], pending?⟩, ']' :: rest) =>
    (⟨negated, [literal ⟨']', false⟩], pending?⟩, skip verbose rest)
  | opened => opened

/-- Read up to the end of the outermost class; every round consumes a character. -/
def readRest (verbose : Bool) : Nat → OpenClass → List OpenClass → List Char →
    Except Fault (OpenClass × List Char)
  | 0, _, _, _ => .error .classUnclosed
  | fuel + 1, c, outer, cs =>
    match skip verbose cs with
    | [] => .error .classUnclosed
    | '[' :: rest =>
      match AsciiClass.read? rest with
      | some (item, rest) => readRest verbose fuel (c.push item) outer rest
      | none =>
        let (inner, rest) := readOpening verbose rest
        readRest verbose fuel inner (c :: outer) rest
    | ']' :: rest =>
      match outer with
      | [] => .ok (c, rest)
      | parent :: outer => readRest verbose fuel (parent.push c.close) outer rest
    | '&' :: '&' :: rest => readRest verbose fuel (c.operator .intersection) outer rest
    | '-' :: '-' :: rest => readRest verbose fuel (c.operator .difference) outer rest
    | '~' :: '~' :: rest => readRest verbose fuel (c.operator .symmetricDifference) outer rest
    | cs =>
      match readItem verbose cs with
      | .error fault => .error fault
      | .ok (item, rest) => readRest verbose fuel (c.push item) outer rest

/-- Read a class behind its opening bracket. -/
def read (verbose : Bool) (cs : List Char) : Except Fault (Tree × List Char) := do
  let (opened, rest) := readOpening verbose cs
  let (c, rest) ← readRest verbose (cs.length + 1) opened [] rest
  return (.bracketed c.negated c.contents, rest)

end ClassSet

end Polymatch.Conventional
