import Polymatch.Proofs.Automaton.Runs

/-! # Tight automata

Edges let only some of the patterns through, but the states that they lead to do not
tell which. An automaton is tight if this never matters at the end of an input:
whatever pattern the last state accepts has survived all the edges on the way.
-/

namespace Polymatch.Automaton

variable {a : Automaton} {i s s' x : Nat} {w : List Nat}

/-- The state behind an input, whatever patterns survive. -/
def reach? (a : Automaton) (s : Nat) (w : List Nat) : Option Nat :=
  w.foldlM (fun s x => ((a.node s).edges.link? x).map Link.next) s

@[simp] theorem reach?_nil (a : Automaton) (s : Nat) : a.reach? s [] = some s := rfl

theorem reach?_cons (a : Automaton) (s x : Nat) (w : List Nat) :
    a.reach? s (x :: w) = ((a.node s).edges.link? x).bind fun k => a.reach? k.next w := by
  unfold reach?
  rw [List.foldlM_cons]
  cases (a.node s).edges.link? x <;> rfl

theorem reach?_concat (a : Automaton) (s x : Nat) (w : List Nat) :
    a.reach? s (w ++ [x]) = (a.reach? s w).bind fun s => ((a.node s).edges.link? x).map Link.next := by
  unfold reach?
  rw [List.foldlM_append]
  simp only [List.foldlM_cons, List.foldlM_nil, bind_pure]
  rfl

/-- A pattern that survives walks along the edges. -/
theorem reach?_of_walk? (h : a.walk? i s w = some s') : a.reach? s w = some s' := by
  induction w generalizing s with
  | nil => exact h
  | cons x w ih =>
    obtain ⟨k, hk, hw⟩ := Option.bind_eq_some_iff.1 h
    rw [reach?_cons, (follow?_eq_some.1 hk).1]
    exact ih hw

/-- The patterns that a state accepts have survived on the way to it. -/
def Tight (a : Automaton) : Prop :=
  ∀ w s, a.reach? a.start w = some s → ∀ i ∈ (a.node s).accept, i ∈ a.accepts w

/-- Patterns accept an input only in the state behind it. -/
theorem exists_reach?_of_mem_accepts (h : i ∈ a.accepts w) :
    ∃ s, a.reach? a.start w = some s ∧ i ∈ (a.node s).accept := by
  obtain ⟨-, s, hw, hi⟩ := mem_accepts.1 h
  exact ⟨s, reach?_of_walk? hw, hi⟩

/-- The state behind an input accepts the patterns that accept the input. -/
theorem Tight.accept_eq (h : a.Tight) (hs : a.reach? a.start w = some s) :
    (a.node s).accept = a.accepts w := by
  apply SortedSet.ext_mem
  intro i
  constructor
  · exact h w s hs i
  · intro hi
    obtain ⟨s', hs', hi'⟩ := exists_reach?_of_mem_accepts hi
    rwa [Option.some.inj (hs.symm.trans hs')]

end Polymatch.Automaton
