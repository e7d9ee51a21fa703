/-! # Syntax trees of the conventional syntax

Trees keep what is written: flag directives, class operations and property names
get their meaning later.
-/

namespace Polymatch.Conventional

inductive Flag
  | ignoreCase
  | multiLine
  | dotAll
  | swapGreed
  | unicode
  | crlf
  /-- Blanks and comments between tokens are skipped. -/
  | verbose
  deriving DecidableEq, Repr, Inhabited

/-- Flags with the values that they are set to. -/
abbrev Directive := List (Flag × Bool)

structure Literal where
  char : Char
  /-- Written with two hexadecimal digits, which can name a byte. -/
  twoDigits : Bool
  deriving DecidableEq, Repr, Inhabited

inductive Shorthand
  | digit
  | space
  | word
  deriving DecidableEq, Repr, Inhabited

inductive AsciiClass
  | alnum | alpha | ascii | blank | cntrl | digit | graph | lower | print | punct | space | upper
  | word | xdigit
  deriving DecidableEq, Repr, Inhabited

inductive PropertyQuery
  /-- A binary property, a general category or a script. -/
  | name (name : String)
  | value (property value : String)
  deriving DecidableEq, Repr, Inhabited

inductive Assertion
  | lineStart | lineEnd | textStart | textEnd | wordBoundary | notWordBoundary
  | wordStart | wordEnd | wordStartHalf | wordEndHalf
  deriving DecidableEq, Repr, Inhabited

/-- What a single character or escape stands for. -/
inductive Atom
  | literal (l : Literal)
  | shorthand (kind : Shorthand) (negated : Bool)
  | property (query : PropertyQuery) (negated : Bool)
  | assertion (a : Assertion)
  deriving DecidableEq, Repr, Inhabited

inductive SetOperator
  | intersection
  | difference
  | symmetricDifference
  deriving DecidableEq, Repr, Inhabited

/-- The contents of a class between brackets. -/
inductive ClassSet
  | literal (l : Literal)
  | range (lo hi : Literal)
  | ascii (kind : AsciiClass) (negated : Bool)
  | shorthand (kind : Shorthand) (negated : Bool)
  | property (query : PropertyQuery) (negated : Bool)
  | bracketed (negated : Bool) (set : ClassSet)
  | union (items : List ClassSet)
  | operation (op : SetOperator) (lhs rhs : ClassSet)
  deriving Repr, Inhabited

namespace ClassSet

/-- The union of some items; a single item stands for itself. -/
def ofItems : List ClassSet → ClassSet
  | [item] => item
  | items => union items

mutual

/-- How deep classes and their operations are nested. -/
def depth : ClassSet → Nat
  | bracketed _ set => depth set + 1
  | union [] => 0
  | union (item :: items) => max (depth item) (depths items) + 1
  | operation _ lhs rhs => max (depth lhs) (depth rhs) + 1
  | _ => 0

def depths : List ClassSet → Nat
  | [] => 0
  | item :: items => max (depth item) (depths items)

end

end ClassSet

inductive GroupKind
  /-- A group that captures, with its index. -/
  | capture (index : Nat)
  /-- A group that only sets flags. -/
  | scope (directive : Directive)
  deriving DecidableEq, Repr, Inhabited

inductive Tree
  | empty
  /-- Set flags up to the end of the group around. -/
  | directive (d : Directive)
  | atom (a : Atom)
  | dot
  | bracketed (negated : Bool) (set : ClassSet)
  | repetition (min : Nat) (max? : Option Nat) (greedy : Bool) (sub : Tree)
  | group (kind : GroupKind) (sub : Tree)
  | alternation (branches : List Tree)
  | concat (items : List Tree)
  deriving Repr, Inhabited

namespace Tree

/-- The items in order; a single item stands for itself. -/
def inOrder : List Tree → Tree
  | [] => empty
  | [item] => item
  | items => concat items

/-- One of the branches; a single branch stands for itself. -/
def oneOf : List Tree → Tree
  | [branch] => branch
  | branches => alternation branches

def isDirective : Tree → Bool
  | directive _ => true
  | _ => false

mutual

/-- How deep the tree is nested. -/
def depth : Tree → Nat
  | bracketed _ set => set.depth + 1
  | repetition _ _ _ sub => depth sub + 1
  | group _ sub => depth sub + 1
  | alternation branches => depths branches + 1
  | concat items => depths items + 1
  | _ => 0

def depths : List Tree → Nat
  | [] => 0
  | t :: rest => max (depth t) (depths rest)

end

end Tree

end Polymatch.Conventional
