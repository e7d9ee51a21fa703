import Polymatch.IdSet
import Polymatch.Interval
import Polymatch.Marks

/-! # Edges

An edge leads every ordinal of a group to one state. It carries the ids of the
patterns that survive it and the group boundaries that it crosses.
-/

namespace Polymatch

structure Edge where
  lo : Nat
  hi : Nat
  next : Nat
  routes : IdSet
  marks : Marks
  deriving DecidableEq, Inhabited

/-- What an edge says of every ordinal of its group. -/
structure Link where
  next : Nat
  routes : IdSet
  marks : Marks
  deriving DecidableEq, Inhabited

namespace Edge

def link (e : Edge) : Link := ⟨e.next, e.routes, e.marks⟩

def group (e : Edge) : Interval := ⟨e.lo, e.hi⟩

def contains (e : Edge) (x : Nat) : Bool := e.group.contains x

/-- The same edge on another group. -/
def onGroup (e : Edge) (i : Interval) : Edge := { e with lo := i.lo, hi := i.hi }

/-- Whether two edges differ in their groups only. -/
def agrees (e f : Edge) : Bool := e.next = f.next && e.routes = f.routes && e.marks = f.marks

theorem agrees_iff {e f : Edge} : e.agrees f = true ↔ e.link = f.link := by
  simp [agrees, link, and_assoc]

/-- The order of edges in a map: a group ends where the next one begins, or before it, and touching
groups differ in what they say. -/
def Precedes (e f : Edge) : Prop := e.hi ≤ f.lo ∧ (e.hi = f.lo → e.link ≠ f.link)

/-- Ascending disjoint groups without an empty one, joined wherever touching groups agree. -/
structure Canonical (edges : List Edge) : Prop where
  nonempty : ∀ e ∈ edges, e.lo < e.hi
  ascending : edges.Pairwise Precedes

theorem Canonical.nil : Canonical [] := ⟨by simp, .nil⟩

end Edge

end Polymatch
