import Polymatch.SortedSet

/-! # Group boundaries on edges

A mark opens or closes an occurrence of one group slot. Edges and accepting
states carry sets of marks, ordered by slot and within a slot by the order in
which the boundaries take effect.
-/

namespace Polymatch

/-- What a mark does to its slot when an edge is taken. -/
inductive Boundary
  /-- Open a new occurrence at the current position. -/
  | start
  /-- Close the latest occurrence in front of the current symbol. -/
  | endExclusive
  /-- Close the latest occurrence behind the current symbol. -/
  | endInclusive
  deriving DecidableEq, Repr, Inhabited

namespace Boundary

/-- An occurrence is opened before it is closed, and an inclusive end overrides an exclusive one. -/
def order : Boundary → Nat
  | start => 0
  | endExclusive => 1
  | endInclusive => 2

theorem order_lt (b : Boundary) : b.order < 3 := by cases b <;> decide

theorem order_inj {a b : Boundary} (h : a.order = b.order) : a = b := by
  cases a <;> cases b <;> simp_all [order]

def sigil : Boundary → String
  | start => "("
  | endExclusive => ")"
  | endInclusive => "]"

end Boundary

structure Mark where
  slot : Nat
  boundary : Boundary
  deriving DecidableEq, Repr, Inhabited

instance : Ranked Mark where
  rank m := 3 * m.slot + m.boundary.order
  rank_inj := by
    rintro ⟨s, a⟩ ⟨t, b⟩ h
    have ha := a.order_lt
    have hb := b.order_lt
    simp only at h
    obtain rfl : s = t := by omega
    rw [Boundary.order_inj (show a.order = b.order by omega)]

abbrev Marks := SortedSet Mark

namespace Marks

/-- Opening of an occurrence of `slot`. -/
def opening (slot : Nat) : Marks := SortedSet.singleton ⟨slot, .start⟩

/-- Closing of the latest occurrence of `slot`, behind or in front of the current symbol. -/
def closing (slot : Nat) (inclusive : Bool) : Marks :=
  SortedSet.singleton ⟨slot, if inclusive then .endInclusive else .endExclusive⟩

/-- Every slot moved up by `offset`. -/
def shift (s : Marks) (offset : Nat) : Marks :=
  s.map (fun m => ⟨m.slot + offset, m.boundary⟩) fun {a b} h => by
    simp only [Ranked.rank] at h ⊢
    omega

@[simp] theorem mem_shift {s : Marks} {offset : Nat} {m : Mark} :
    m ∈ s.shift offset ↔ ∃ n ∈ s, ⟨n.slot + offset, n.boundary⟩ = m :=
  List.mem_map

/-- The union of `s` with `t` moved up by `offset`. -/
def append (s t : Marks) (offset : Nat) : Marks := s ∪ t.shift offset

/-- The highest slot with a mark. -/
def maxSlot? (s : Marks) : Option Nat := s.max?.map (·.slot)

theorem le_maxSlot? {s : Marks} {m : Mark} (h : m ∈ s) : ∃ n, s.maxSlot? = some n ∧ m.slot ≤ n := by
  obtain ⟨n, hn, hle⟩ := SortedSet.le_max? h
  refine ⟨n.slot, by rw [maxSlot?, hn, Option.map_some], ?_⟩
  have := n.boundary.order_lt
  simp only [Ranked.rank] at hle
  omega

/-- Each slot followed by the sigil of its boundary, between brackets. -/
def text (s : Marks) : String :=
  "[" ++ " ".intercalate (s.toList.map fun m => toString m.slot ++ m.boundary.sigil) ++ "]"

end Marks

end Polymatch
