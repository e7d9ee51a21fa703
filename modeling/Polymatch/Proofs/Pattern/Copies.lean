import Polymatch.Proofs.Arena.Attach

/-! # Copies of repeated patterns

A repetition is compiled by attaching its body again and again. A counted one takes a copy
for every round up to its last count; a loop takes one that leads back to itself and one
more for every further round that is mandatory. The copies are counted while they are
attached, and a limit on the numbers of a repetition is a limit on its copies.
-/

namespace Polymatch.Pattern

open Arena

mutual

/-- The repetitions in the pattern, outer ones in front of those inside. -/
def repetitions : Pattern → List Pattern
  | symbols _ => []
  | sequence items => allRepetitions items
  | select branches => allRepetitions branches
  | counted body counts => counted body counts :: body.repetitions
  | loop body min policy => loop body min policy :: body.repetitions
  | optional body => body.repetitions
  | group _ body => body.repetitions

def allRepetitions : List Pattern → List Pattern
  | [] => []
  | p :: rest => p.repetitions ++ allRepetitions rest

end

/-- The counts of a counted repetition, or the least number of rounds of a loop. -/
def numbers : Pattern → List Nat
  | counted _ counts => counts
  | loop _ min _ => [min]
  | _ => []

theorem mem_allRepetitions {q : Pattern} {items : List Pattern} :
    q ∈ allRepetitions items ↔ ∃ p ∈ items, q ∈ p.repetitions := by
  induction items with
  | nil => simp [allRepetitions]
  | cons p rest ih => rw [allRepetitions, List.mem_append, ih, List.exists_mem_cons_iff]

theorem repetitions_inOrder (items : List Pattern) : (inOrder items).repetitions = allRepetitions items := by
  unfold inOrder
  split
  · rw [allRepetitions, allRepetitions, List.append_nil]
  · rfl

theorem repetitions_oneOf (branches : List Pattern) : (oneOf branches).repetitions = allRepetitions branches := by
  unfold oneOf
  split
  · rw [allRepetitions, allRepetitions, List.append_nil]
  · rfl

theorem allRepetitions_symbols (units : List Nat) : allRepetitions (units.map symbol) = [] := by
  induction units with
  | nil => rfl
  | cons u units ih => exact ih

/-- A node with the arena it is in, and the number of copies of some body that have been attached. -/
structure Tally where
  copies : Nat
  result : Nat × Arena

/-- One more copy in front of the others. -/
def Tally.again (op : Nat → Arena → Nat × Arena) (t : Tally) : Tally := ⟨t.copies + 1, op t.result.1 t.result.2⟩

/-- Let the copies go on at `tail` as well. -/
def Tally.ending (tail : Nat) (t : Tally) : Tally := { t with result := t.result.2.union t.result.1 tail }

/-- Copies in front of each other and of the node that is there. -/
def Tally.attachAll (op : Nat → Arena → Nat × Arena) (mayEnd : Nat → Bool) (ks : List Nat) (t : Tally) : Tally :=
  ks.foldr (fun k again => if mayEnd k then (again.again op).ending t.result.1 else again.again op) t

/-- Attach a pattern in front of a tail and count how often its body is attached meanwhile. -/
def tallied (σ : Alphabet) (layout : Layout) (p : Pattern) (tail : Nat) (owed : Marks) (g : Arena) : Tally :=
  match p with
  | counted body counts =>
    Tally.attachAll (fun tail g => attach σ layout body tail owed g) (hasCount counts)
      (List.range (counts.getLastD 0)) ⟨0, tail, g⟩
  | loop body min policy =>
    let marker := g.marker
    let once := Tally.again (fun tail g => attach σ layout body tail owed g) ⟨0, marker⟩
    let entry := once.result.2.closeLoop marker.1 once.result.1 tail policy
    if min = 0 then { once with result := entry }
    else
      Tally.attachAll (fun tail g => attach σ layout body tail owed g) (fun _ => false) (List.range (min - 1))
        { once with result := (entry.2.unroll marker.1, entry.2) }
  | p => ⟨0, attach σ layout p tail owed g⟩

/-- The number of copies that a repetition takes. -/
def rounds : Pattern → Nat
  | counted _ counts => counts.getLastD 0
  | loop _ min _ => max 1 min
  | _ => 0

variable {σ : Alphabet} {layout : Layout} {p : Pattern} {tail : Nat} {owed : Marks} {g : Arena} {limit : Nat}

theorem attachAll_eq (op : Nat → Arena → Nat × Arena) (mayEnd : Nat → Bool) (ks : List Nat) (n tail : Nat)
    (g : Arena) : Tally.attachAll op mayEnd ks ⟨n, tail, g⟩ = ⟨n + ks.length, attachCopies op mayEnd ks tail g⟩ := by
  induction ks with
  | nil => rfl
  | cons k ks ih =>
    unfold Tally.attachAll attachCopies at ih ⊢
    rw [List.foldr_cons, ih, List.foldr_cons]
    split <;> rfl

/-- Counting changes nothing about what is attached. -/
theorem tallied_eq (p : Pattern) (tail : Nat) (owed : Marks) (g : Arena) :
    p.tallied σ layout tail owed g = ⟨p.rounds, attach σ layout p tail owed g⟩ := by
  cases p with
  | counted body counts =>
    have hcopies := attachAll_eq (fun tail g => attach σ layout body tail owed g) (hasCount counts)
      (List.range (counts.getLastD 0)) 0 tail g
    rw [List.length_range, Nat.zero_add] at hcopies
    rw [attach_counted]
    exact hcopies
  | loop body min policy =>
    rw [attach_loop]
    unfold tallied rounds attachLoop attachEntry
    dsimp only
    split
    · rename_i hmin
      subst hmin
      rfl
    · rename_i hmin
      have hcopies := attachAll_eq (fun tail g => attach σ layout body tail owed g) (fun _ => false)
        (List.range (min - 1)) 1
      rw [List.length_range, Nat.add_sub_of_le (Nat.one_le_iff_ne_zero.2 hmin)] at hcopies
      rw [Nat.max_eq_right (Nat.one_le_iff_ne_zero.2 hmin)]
      exact hcopies _ _
  | _ => rfl

theorem copies_tallied (p : Pattern) (tail : Nat) (owed : Marks) (g : Arena) :
    (p.tallied σ layout tail owed g).copies = p.rounds := congrArg Tally.copies (tallied_eq p tail owed g)

theorem rounds_le (hlimit : 1 ≤ limit) (h : ∀ n ∈ p.numbers, n ≤ limit) : p.rounds ≤ limit := by
  cases p with
  | counted body counts =>
    unfold rounds
    cases counts with
    | nil => exact Nat.zero_le limit
    | cons n counts => exact h _ (List.getLast_mem (List.cons_ne_nil n counts))
  | loop body min policy => exact Nat.max_le.2 ⟨hlimit, h min (List.mem_singleton_self min)⟩
  | _ => exact Nat.zero_le limit

end Polymatch.Pattern
