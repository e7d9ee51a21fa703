import Polymatch.Proofs.Merge.Paths

/-! # Survivors in merged automata

A run gives up where no pattern survives. Followed regardless, an input leads to a
state and to the set of patterns that survive all of its edges. In the automata that
merging makes of compiled patterns, that set holds every pattern of the state, so
giving up never loses a pattern and the state alone tells what is accepted.
-/

namespace Polymatch

namespace Automaton

variable {σ : Alphabet} {a b m : Automaton} {options : MergeOptions} {c c' : Cursor} {i x : Nat} {w : List Nat}

section Traversals

end Traversals

section Exits

/-- States that accept nothing have no exit. -/
def ExitsAccept (a : Automaton) : Prop := ∀ n ∈ a.nodes, n.accept = ∅ → n.exit = ∅

theorem ExitsAccept.exit_eq (h : a.ExitsAccept) {s : Nat} (hs : (a.node s).accept = ∅) :
    (a.node s).exit = ∅ := forall_node h (fun _ => rfl) s hs

theorem ExitsAccept.isAccepting_of_mem (h : a.ExitsAccept) {s : Nat} {m : Mark} (hm : m ∈ (a.node s).exit) :
    (a.node s).isAccepting = true := by
  rw [Node.isAccepting, Bool.not_eq_true', SortedSet.isEmpty_eq_false]
  by_contra hno
  have hempty : (a.node s).accept = ∅ := SortedSet.eq_empty_iff.2 fun i hi => hno ⟨i, hi⟩
  rw [h.exit_eq hempty] at hm
  exact SortedSet.not_mem_empty _ hm

theorem ExitsAccept.isAccepting_of_mem_shift (h : a.ExitsAccept) {s offset : Nat} {m : Mark}
    (hm : m ∈ (a.node s).exit.shift offset) : (a.node s).isAccepting = true := by
  obtain ⟨n, hn, -⟩ := Marks.mem_shift.1 hm
  exact h.isAccepting_of_mem hn

theorem exitsAccept_of_compile {p : Pattern} (h : p.compile σ = .ok a) : a.ExitsAccept := by
  obtain ⟨ho, -, rfl⟩ := Pattern.compile_eq_ok_iff.1 h
  obtain ⟨_, _, _, hfrozen, -, -⟩ := Pattern.exists_frozen ho ⟨p.labels, 0⟩
  exact hfrozen.exit_eq

end Exits

end Automaton

/-- A merged state exits like the states of its sides, and it accepts where they do. -/
theorem Product.Merged.exitsAccept {p : Product} {pairs : Array Discovered} {m : Automaton}
    (h : p.Merged pairs m) (hl : p.left.ExitsAccept) (hr : p.right.ExitsAccept) : m.ExitsAccept := by
  intro n hn hempty
  obtain ⟨k, q, hstands, rfl⟩ := h.exists_stands_of_mem hn
  have hno : ∀ i, i ∉ (m.node k).accept := SortedSet.eq_empty_iff.1 hempty
  refine SortedSet.eq_empty_iff.2 fun b hb => ?_
  rcases (h.mem_exit hstands).1 hb with ⟨s, hs, hbs⟩ | ⟨s, hs, hbs⟩
  · obtain ⟨i, hi⟩ := Node.isAccepting_iff.1 (hl.isAccepting_of_mem hbs)
    exact hno i ((h.mem_accept hstands).2 (.inl ⟨s, hs, hi⟩))
  · obtain ⟨i, hi⟩ := Node.isAccepting_iff.1 (hr.isAccepting_of_mem_shift hbs)
    exact hno _ ((h.mem_accept hstands).2 (.inr ⟨s, hs, IdSet.mem_shift.2 ⟨i, hi, rfl⟩⟩))

namespace Automaton

variable {σ : Alphabet} {a : Automaton}

theorem Assembled.exitsAccept (h : Assembled σ a) : a.ExitsAccept := by
  induction h with
  | pattern h => exact exitsAccept_of_compile h
  | @path a b ha hb iha ihb =>
    obtain ⟨-, -, pairs, hp⟩ :=
      Product.run_merged ha.sound.toWellFormed hb.sound.toWellFormed (run_pathProduct a b)
    exact hp.exitsAccept iha ihb
  | patterns ha hb h iha ihb =>
    obtain ⟨pairs, hp⟩ := exists_mergedPatterns ha.sound.toWellFormed hb.sound.toWellFormed h
    exact hp.merged.exitsAccept iha ihb

end Automaton

end Polymatch
