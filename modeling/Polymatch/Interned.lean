import Polymatch.IdSet
import Polymatch.Interning
import Polymatch.Marks

/-! # Interned sets

Sets of ids and sets of marks are passed around as handles. A table keeps the content of
every set that has been made, each content once, and a handle tells where it stands there.
Sets are compared by their handles alone, and where an operation sees that its answer is
one of its operands, it keeps nothing.
-/

namespace Polymatch

open Ranked (rank)

namespace Interner

variable {α : Type} [DecidableEq α]

/-- Where a value stands among those met so far, from the first one on. -/
def place (i : Interner α) (a : α) : Nat := i.values.reverse.idxOf a

/-- Keep a value and tell where it stands. -/
def keep (i : Interner α) (a : α) : Nat × Interner α := ((i.intern a).place a, i.intern a)

end Interner

namespace SortedSet

variable {α : Type} [Ranked α]

/-- Compare a list that starts with `a`, and whose remainder `rest` knows how to compare. -/
def commonFrom (a : α) (rest : List α → List α) : List α → List α
  | [] => []
  | b :: t =>
    if rank a < rank b then rest (b :: t)
    else if rank a = rank b then a :: rest t
    else commonFrom a rest t

/-- What is in both of two ascending lists. -/
def common : List α → List α → List α
  | [] => fun _ => []
  | a :: s => commonFrom a (common s)

/-- What is in the first of two ascending lists only. -/
def without : List α → List α → List α
  | [], _ => []
  | a :: s, t =>
    let later := t.dropWhile (rank · < rank a)
    if later.head?.map rank = some (rank a) then without s later else a :: without s later

/-- Search a list that starts with `a`, and whose remainder `rest` knows how to search. -/
def apartFrom (a : α) (rest : List α → Bool) : List α → Bool
  | [] => true
  | b :: t =>
    if rank a < rank b then rest (b :: t)
    else if rank a = rank b then false
    else apartFrom a rest t

/-- Nothing is in both of two ascending lists. -/
def apart : List α → List α → Bool
  | [] => fun _ => true
  | a :: s => apartFrom a (apart s)

end SortedSet

/-- Elements with a number that can be moved up. -/
class Movable (α : Type) extends Ranked α where
  number : α → Nat
  moved : Nat → α → α
  rank_moved : ∀ (offset : Nat) {a b : α}, rank a < rank b → rank (moved offset a) < rank (moved offset b)
  moved_zero : ∀ a, moved 0 a = a

instance : Movable Nat where
  toRanked := inferInstance
  number n := n
  moved offset n := n + offset
  rank_moved offset _ _ h := Nat.add_lt_add_right h offset
  moved_zero _ := rfl

namespace Mark

/-- The mark with its slot moved up. -/
def move (offset : Nat) (m : Mark) : Mark := ⟨m.slot + offset, m.boundary⟩

theorem rank_move (offset : Nat) {m n : Mark} (h : rank m < rank n) : rank (m.move offset) < rank (n.move offset) := by
  simp only [move, rank] at h ⊢
  omega

end Mark

instance : Movable Mark where
  toRanked := inferInstance
  number := Mark.slot
  moved := Mark.move
  rank_moved := Mark.rank_move
  moved_zero _ := rfl

open Movable (number moved)

/-- The contents of all sets that have been made. -/
abbrev Contents (α : Type) := Interner (List α)

namespace Contents

section Operations

variable {α : Type} [DecidableEq α] [Movable α] (t : Contents α)

/-- What a handle stands for. -/
def content (handle : Nat) : List α := t.values.reverse.getD handle []

/-- The set of some elements in any order. -/
def make (items : List α) : Nat × Contents α := t.keep (items.mergeSort (rank · ≤ rank ·)).eraseReps

/-- Elements moved up, unless a number does not fit into 32 bits any more. -/
def moveAll? (offset : Nat) (l : List α) : Option (List α) :=
  if (l.map (moved offset)).all (number · < UInt32.size) then some (l.map (moved offset)) else none

def shift (a offset : Nat) : Option (Nat × Contents α) :=
  if offset = 0 ∨ (t.content a).isEmpty then some (a, t)
  else (moveAll? offset (t.content a)).map t.keep

/-- Every element of the second set is in the first one. -/
def covers (a b : Nat) : Bool := a == b || SortedSet.holdsAll (t.content a) (t.content b)

def isApart (a b : Nat) : Bool := SortedSet.apart (t.content a) (t.content b)

/-- The union of the first set with the second one moved up, which is arranged before the two are merged. -/
def appendWith (arrange : List α → List α) (a b offset : Nat) : Option (Nat × Contents α) :=
  if (t.content b).isEmpty then some (a, t)
  else if (t.content a).isEmpty then t.shift b offset
  else if offset = 0 ∧ t.covers a b then some (a, t)
  else (moveAll? offset (t.content b)).map fun l => t.keep (SortedSet.merge (t.content a) (arrange l))

def intersect (a b : Nat) : Nat × Contents α :=
  if a = b ∨ t.covers b a then (a, t)
  else if t.covers a b then (b, t)
  else t.keep (SortedSet.common (t.content a) (t.content b))

end Operations

/-! ## Sets of ids -/

def appendIds (t : Contents Nat) (a b offset : Nat) : Option (Nat × Contents Nat) := t.appendWith (·) a b offset

def subtractIds (t : Contents Nat) (a b : Nat) : Nat × Contents Nat :=
  if (t.content b).isEmpty ∨ t.isApart a b then (a, t)
  else t.keep (SortedSet.without (t.content a) (t.content b))

/-! ## Sets of marks -/

/-- Marks that have been moved up are sorted again. -/
def appendMarks (t : Contents Mark) (a b offset : Nat) : Option (Nat × Contents Mark) :=
  t.appendWith (·.mergeSort (rank · ≤ rank ·)) a b offset

/-- Whether anything is taken away is not looked up. -/
def subtractMarks (t : Contents Mark) (a b : Nat) : Nat × Contents Mark :=
  if (t.content b).isEmpty then (a, t)
  else t.keep (SortedSet.without (t.content a) (t.content b))

end Contents

/-- A table with the handles of the sets made by some operations, in the order in which they were made. -/
structure Ledger (α : Type) where
  contents : Contents α
  handles : List Nat

namespace Ledger

def blank (α : Type) : Ledger α := ⟨.empty, []⟩

def enter {α : Type} (l : Ledger α) (r : Nat × Contents α) : Ledger α := ⟨r.2, l.handles ++ [r.1]⟩

/-- Carry out some operations, each on the sets made by those in front of it. There is no result if an
operand does not exist or a number does not fit into 32 bits. -/
def run {α Op : Type} (call : Ledger α → Op → Option (Nat × Contents α)) (l : Ledger α) (ops : List Op) :
    Option (Ledger α) :=
  ops.foldlM (fun l op => (call l op).map l.enter) l

end Ledger

/-- What makes a set of ids. Operands are named by their places in the order in which sets are made. -/
inductive IdOperation
  | new (ids : List Nat)
  | empty
  | single (n : Nat)
  | range (n : Nat)
  | intersect (a b : Nat)
  | union (a b : Nat)
  | append (a b offset : Nat)
  | shift (a offset : Nat)
  | subtract (a b : Nat)
  deriving Repr

def IdOperation.call (l : Ledger Nat) : IdOperation → Option (Nat × Contents Nat)
  | new ids => some (l.contents.make ids)
  | empty => some (l.contents.keep [])
  | single n => some (l.contents.keep [n])
  | range n => some (l.contents.keep (List.range n))
  | intersect a b => do return l.contents.intersect (← l.handles[a]?) (← l.handles[b]?)
  | union a b => do l.contents.appendIds (← l.handles[a]?) (← l.handles[b]?) 0
  | append a b offset => do l.contents.appendIds (← l.handles[a]?) (← l.handles[b]?) offset
  | shift a offset => do l.contents.shift (← l.handles[a]?) offset
  | subtract a b => do return l.contents.subtractIds (← l.handles[a]?) (← l.handles[b]?)

/-- What makes a set of marks. -/
inductive MarkOperation
  | new (marks : List Mark)
  | empty
  | opening (slot : Nat)
  | closing (slot : Nat) (inclusive : Bool)
  | union (a b : Nat)
  | append (a b offset : Nat)
  | shift (a offset : Nat)
  | subtract (a b : Nat)
  deriving Repr

def MarkOperation.call (l : Ledger Mark) : MarkOperation → Option (Nat × Contents Mark)
  | new marks => some (l.contents.make marks)
  | empty => some (l.contents.keep [])
  | opening slot => some (l.contents.keep [⟨slot, .start⟩])
  | closing slot inclusive =>
    some (l.contents.keep [⟨slot, if inclusive then .endInclusive else .endExclusive⟩])
  | union a b => do l.contents.appendMarks (← l.handles[a]?) (← l.handles[b]?) 0
  | append a b offset => do l.contents.appendMarks (← l.handles[a]?) (← l.handles[b]?) offset
  | shift a offset => do l.contents.shift (← l.handles[a]?) offset
  | subtract a b => do return l.contents.subtractMarks (← l.handles[a]?) (← l.handles[b]?)

end Polymatch
