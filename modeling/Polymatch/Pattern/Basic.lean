import Polymatch.Group.Layout
import Polymatch.Interval
import Polymatch.Pattern.Counts
import Polymatch.Text.Units

/-! # Patterns

The syntax tree of regular expressions over ordinals. Loops carry a policy for
symbols that both continue the loop and leave it, and groups carry labels.
-/

namespace Polymatch

/-- How a loop treats a symbol that its body and its tail can both take. -/
inductive LoopPolicy
  /-- Both paths stay alive. -/
  | plain
  /-- The loop keeps the symbol. -/
  | extending
  /-- The tail takes the symbol and the loop ends. -/
  | limiting
  deriving DecidableEq, Repr, Inhabited

inductive Pattern
  /-- One symbol out of some intervals. -/
  | symbols (ranges : List Interval)
  | sequence (items : List Pattern)
  | select (branches : List Pattern)
  /-- Exactly `n` copies of the body, for some `n` among ascending counts. -/
  | counted (body : Pattern) (counts : List Nat)
  /-- At least `min` copies of the body. -/
  | loop (body : Pattern) (min : Nat) (policy : LoopPolicy)
  | optional (body : Pattern)
  | group (label : Label) (body : Pattern)
  deriving Repr, Inhabited

namespace Pattern

/-- One symbol out of intervals in any order. -/
def ofRanges (ranges : List Interval) : Pattern := symbols (Interval.normalize ranges)

def symbol (x : Nat) : Pattern := symbols [.single x]

/-- Any code unit. -/
def any : Pattern := symbols [⟨0, Text.unitLimit⟩]

/-- The pattern of the empty input alone. -/
def empty : Pattern := sequence []

/-- The items in order; a single item stands for itself. -/
def inOrder : List Pattern → Pattern
  | [item] => item
  | items => sequence items

/-- One of the branches; a single branch stands for itself. -/
def oneOf : List Pattern → Pattern
  | [branch] => branch
  | branches => select branches

/-- The code units of a text in order. -/
def literal (text : String) : Pattern := inOrder ((Text.units text).map symbol)

/-- The body repeated for every one of the counts. -/
def times (body : Pattern) (counts : List Nat) : Pattern := counted body (normalCounts counts)

def star (body : Pattern) : Pattern := loop body 0 .plain

def plus (body : Pattern) : Pattern := loop body 1 .plain

mutual

/-- Whether the pattern matches the empty input. -/
def nullable : Pattern → Bool
  | symbols _ => false
  | sequence items => allNullable items
  | select branches => anyNullable branches
  | counted body counts => counts.head? == some 0 || body.nullable
  | loop body min _ => min == 0 || body.nullable
  | optional _ => true
  | group _ body => body.nullable

def allNullable : List Pattern → Bool
  | [] => true
  | p :: rest => p.nullable && allNullable rest

def anyNullable : List Pattern → Bool
  | [] => false
  | p :: rest => p.nullable || anyNullable rest

end

mutual

/-- Labels of the groups in the order of declaration, outer groups first. -/
def labels : Pattern → List Label
  | symbols _ => []
  | sequence items => allLabels items
  | select branches => allLabels branches
  | counted body _ => body.labels
  | loop body _ _ => body.labels
  | optional body => body.labels
  | group label body => label :: body.labels

def allLabels : List Pattern → List Label
  | [] => []
  | p :: rest => p.labels ++ allLabels rest

end

/-- The capture layout of the pattern; fails with a label that two groups share. -/
def layout (p : Pattern) : Except Label Layout := Layout.ofLabels p.labels

end Pattern

end Polymatch
