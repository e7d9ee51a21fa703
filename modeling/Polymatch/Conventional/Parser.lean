import Polymatch.Conventional.Class
import Polymatch.Unicode.Recent

/-! # Parsing the conventional syntax

A text is read from left to right into a tree. Groups that are open enclose the
current alternation; a directive that sets the verbose flag holds up to the end of
the group around it.
-/

namespace Polymatch.Conventional

namespace Flag

def named? : Char → Option Flag
  | 'i' => some ignoreCase
  | 'm' => some multiLine
  | 's' => some dotAll
  | 'U' => some swapGreed
  | 'u' => some unicode
  | 'R' => some crlf
  | 'x' => some verbose
  | _ => none

end Flag

/-- How a flag directive ends. -/
inductive DirectiveEnd
  | colon
  | parenthesis
  deriving DecidableEq, Repr

/-- A flag directive that is being read; flags are held latest first. -/
structure OpenDirective where
  flags : Directive
  negated : Bool
  /-- Nothing follows the sign of negation yet. -/
  dangling : Bool

namespace OpenDirective

def finish (d : OpenDirective) (stop : DirectiveEnd) (rest : List Char) :
    Except Fault (Directive × DirectiveEnd × List Char) :=
  if d.dangling then .error .flagDanglingNegation else .ok (d.flags.reverse, stop, rest)

def read (d : OpenDirective) : List Char → Except Fault (Directive × DirectiveEnd × List Char)
  | [] => .error .flagUnexpectedEnd
  | ':' :: rest => d.finish .colon rest
  | ')' :: rest => d.finish .parenthesis rest
  | '-' :: rest =>
    if d.negated then .error .flagRepeatedNegation
    else read { d with negated := true, dangling := true } rest
  | c :: rest =>
    match Flag.named? c with
    | none => .error .flagUnrecognized
    | some flag =>
      if d.flags.any (·.1 = flag) then .error .flagDuplicate
      else read { d with flags := (flag, !d.negated) :: d.flags, dangling := false } rest

end OpenDirective

/-- What stands behind an opening parenthesis. -/
inductive Opening
  | capture (name? : Option (List Char))
  | scope (d : Directive)
  /-- A directive that stands alone. -/
  | directive (d : Directive)
  deriving DecidableEq, Repr

namespace Opening

def isNameStart (c : Char) : Bool := c = '_' || Unicode.Recent.isAlphabetic c.toNat

def isNamePart (c : Char) : Bool :=
  ['_', '.', '[', ']'].contains c || Unicode.Recent.isAlphabetic c.toNat ||
    Unicode.Recent.isNumeric c.toNat

def isName : List Char → Bool
  | [] => false
  | c :: rest => isNameStart c && rest.all isNamePart

/-- Read the name of a group behind its opening angle. -/
def readName (cs : List Char) : Except Fault (Opening × List Char) :=
  match cs.dropWhile (· ≠ '>') with
  | '>' :: rest =>
    let name := cs.takeWhile (· ≠ '>')
    if name.isEmpty then .error .groupNameEmpty
    else if isName name then .ok (capture (some name), rest)
    else .error .groupNameInvalid
  | _ => .error .groupNameUnexpectedEnd

def readFlags (cs : List Char) : Except Fault (Opening × List Char) := do
  match ← OpenDirective.read ⟨[], false, false⟩ cs with
  | (d, .colon, rest) => return (scope d, rest)
  | (d, .parenthesis, rest) => if d.isEmpty then .error .repetitionMissing else return (directive d, rest)

/-- Read what stands behind an opening parenthesis. -/
def read : List Char → Except Fault (Opening × List Char)
  | '?' :: '=' :: _ => .error .unsupportedLookAround
  | '?' :: '!' :: _ => .error .unsupportedLookAround
  | '?' :: '<' :: '=' :: _ => .error .unsupportedLookAround
  | '?' :: '<' :: '!' :: _ => .error .unsupportedLookAround
  | '?' :: 'P' :: '<' :: rest => readName rest
  | '?' :: '<' :: rest => readName rest
  | '?' :: rest => readFlags rest
  | rest => .ok (capture none, rest)

end Opening

/-- A quantifier: bounds on the number of copies, and whether many or few are preferred. -/
structure Counts where
  min : Nat
  max? : Option Nat
  greedy : Bool
  deriving DecidableEq, Repr

namespace Counts

/-- Read decimal digits, skipping what is insignificant between them. -/
def readDigits (verbose : Bool) : Nat → List Char → List Char × List Char
  | fuel + 1, c :: rest =>
    if c.isDigit then
      let (digits, rest) := readDigits verbose fuel (skip verbose rest)
      (c :: digits, rest)
    else ([], c :: rest)
  | _, cs => ([], cs)

/-- Read a number between blanks. -/
def readNumber (verbose : Bool) (cs : List Char) : Except Fault (Nat × List Char) :=
  let (digits, rest) := readDigits verbose cs.length (cs.dropWhile isBlank)
  if digits.isEmpty then .error .countEmpty
  else if UInt32.size ≤ Text.decimalValue digits then .error .countInvalid
  else .ok (Text.decimalValue digits, rest.dropWhile isBlank)

/-- Read the bounds between braces. -/
def readBounds (verbose : Bool) (cs : List Char) :
    Except Fault (Nat × Option Nat × List Char) := do
  let (min, rest) ← readNumber verbose (skip verbose cs)
  match rest with
  | '\x7d' :: rest => return (min, some min, rest)
  | ',' :: rest =>
    match skip verbose rest with
    | '\x7d' :: rest => return (min, none, rest)
    | rest =>
      let (max, rest) ← readNumber verbose rest
      match rest with
      | '\x7d' :: rest => if min ≤ max then return (min, some max, rest) else .error .countOutOfOrder
      | _ => .error .countUnclosed
  | _ => .error .countUnclosed

/-- Read the sign of a quantifier that prefers few copies, if it is there. -/
def readLazy (min : Nat) (max? : Option Nat) : List Char → Counts × List Char
  | '?' :: rest => (⟨min, max?, false⟩, rest)
  | rest => (⟨min, max?, true⟩, rest)

/-- Read a quantifier that starts with a character, if it does. -/
def read? (verbose : Bool) (c : Char) (rest : List Char) :
    Option (Except Fault (Counts × List Char)) :=
  match c with
  | '?' => some (.ok (readLazy 0 (some 1) rest))
  | '*' => some (.ok (readLazy 0 none rest))
  | '+' => some (.ok (readLazy 1 none rest))
  | '\x7b' => some <| do
    let (min, max?, rest) ← readBounds verbose rest
    return readLazy min max? (skip verbose rest)
  | _ => none

def apply (counts : Counts) (t : Tree) : Tree := .repetition counts.min counts.max? counts.greedy t

end Counts

/-- An alternation that is being read; branches and items are held latest first. -/
structure OpenBranches where
  branches : List Tree
  items : List Tree

namespace OpenBranches

def start : OpenBranches := ⟨[], []⟩

def branch (o : OpenBranches) : Tree := Tree.inOrder o.items.reverse

def tree (o : OpenBranches) : Tree := Tree.oneOf (o.branch :: o.branches).reverse

def push (o : OpenBranches) (t : Tree) : OpenBranches := { o with items := t :: o.items }

def nextBranch (o : OpenBranches) : OpenBranches := ⟨o.branch :: o.branches, []⟩

end OpenBranches

/-- A group that is open, with what surrounds it. -/
structure OpenGroup where
  kind : GroupKind
  around : OpenBranches
  verbose : Bool

structure Reading where
  current : OpenBranches
  /-- Innermost group first. -/
  groups : List OpenGroup
  verbose : Bool
  captures : Nat
  names : List (List Char)

namespace Reading

def start : Reading := ⟨.start, [], false, 0, []⟩

def push (r : Reading) (t : Tree) : Reading := { r with current := r.current.push t }

/-- The verbose flag behind a directive. -/
def verboseAfter (r : Reading) (d : Directive) : Bool := (d.lookup .verbose).getD r.verbose

def openGroup (r : Reading) (kind : GroupKind) (verbose : Bool) : Reading :=
  { r with current := .start, groups := ⟨kind, r.current, r.verbose⟩ :: r.groups, verbose }

def enter (r : Reading) : Opening → Except Fault Reading
  | .directive d => .ok { r.push (.directive d) with verbose := r.verboseAfter d }
  | .scope d => .ok (r.openGroup (.scope d) (r.verboseAfter d))
  | .capture name? =>
    if name?.any r.names.contains then .error .groupNameDuplicate
    else
      let index := r.captures + 1
      let r := { r with captures := index, names := name?.toList ++ r.names }
      .ok (r.openGroup (.capture index) r.verbose)

def leave (r : Reading) : Except Fault Reading :=
  match r.groups with
  | [] => .error .groupUnopened
  | g :: groups =>
    .ok { r with
      current := g.around.push (.group g.kind r.current.tree)
      groups
      verbose := g.verbose }

/-- Repeat the last item of the current branch. -/
def quantify (r : Reading) (counts : Counts) : Except Fault Reading :=
  match r.current.items with
  | [] => .error .repetitionMissing
  | t :: items =>
    if t.isDirective then .error .repetitionMissing
    else .ok { r with current := { r.current with items := counts.apply t :: items } }

/-- Read an item that starts with a character. -/
def readItem (verbose : Bool) (c : Char) (rest : List Char) : Except Fault (Tree × List Char) :=
  match c with
  | '[' => ClassSet.read verbose rest
  | '\\' => (fun (a, rest) => (.atom a, rest)) <$> Escape.read verbose rest
  | '.' => .ok (.dot, rest)
  | '^' => .ok (.atom (.assertion .lineStart), rest)
  | '$' => .ok (.atom (.assertion .lineEnd), rest)
  | c => .ok (.atom (.literal ⟨c, false⟩), rest)

/-- Read on from a character. -/
def step (r : Reading) (c : Char) (rest : List Char) : Except Fault (Reading × List Char) :=
  match c with
  | '(' => do
    let (opening, rest) ← Opening.read (skip r.verbose rest)
    return (← r.enter opening, rest)
  | ')' => (·, rest) <$> r.leave
  | '|' => .ok ({ r with current := r.current.nextBranch }, rest)
  | c =>
    match Counts.read? r.verbose c rest with
    | some quantifier => do
      let (counts, rest) ← quantifier
      return (← r.quantify counts, rest)
    | none => do
      let (t, rest) ← readItem r.verbose c rest
      return (r.push t, rest)

def finish (r : Reading) : Except Fault Tree :=
  if r.groups.isEmpty then .ok r.current.tree else .error .groupUnclosed

/-- Read to the end of the text; every round consumes a character. -/
def readRest : Nat → Reading → List Char → Except Fault Tree
  | 0, r, _ => r.finish
  | fuel + 1, r, cs =>
    match skip r.verbose cs with
    | [] => r.finish
    | c :: rest =>
      match r.step c rest with
      | .error fault => .error fault
      | .ok (r, rest) => readRest fuel r rest

end Reading

namespace Tree

/-- Trees may be nested this deep. -/
def maxDepth : Nat := 250

/-- The tree of a text. -/
def parse (text : String) : Except Fault Tree := do
  let cs := text.toList
  let tree ← Reading.start.readRest (cs.length + 1) cs
  if maxDepth < tree.depth then .error .nestedTooDeep else return tree

end Tree

end Polymatch.Conventional
