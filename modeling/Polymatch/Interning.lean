/-! # Interning

An interner keeps one copy of every value it has met and tells how many there are.
-/

namespace Polymatch

structure Interner (α : Type) where
  values : List α
  deriving DecidableEq, Repr

namespace Interner

variable {α : Type} [DecidableEq α]

def empty : Interner α := ⟨[]⟩

/-- Keep `a` unless an equal value is kept already. -/
def intern (i : Interner α) (a : α) : Interner α := if i.values.contains a then i else ⟨a :: i.values⟩

/-- Number of distinct values met so far. -/
def size (i : Interner α) : Nat := i.values.length

def isEmpty (i : Interner α) : Bool := i.values.isEmpty

def text (i : Interner α) : String := "Interner \x7b count: " ++ toString i.size ++ " \x7d"

end Interner

end Polymatch
