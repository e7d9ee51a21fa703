import Mathlib.Data.List.Induction
import Polymatch.Proofs.Automaton.Tight
import Polymatch.Proofs.Merge.Patterns

/-! # Overlapping patterns

The walk through the pairs of states visits exactly the pairs that some input leads
to. A pair whose states both accept is an overlap. If the sides are tight, the input
that leads there is accepted by patterns of both, so a merge that forbids overlaps
fails on such inputs only, and one that succeeds leaves none of them.
-/

namespace Polymatch

namespace Product

variable {p : Product} {pairs : Array Discovered} {d : Discovered} {w : List Nat} {x : Nat} {q : StatePair}
  {err : BuildError}

/-- The states of both sides behind an input. -/
def pairAt (p : Product) (w : List Nat) : StatePair :=
  ⟨p.left.reach? p.left.start w, p.right.reach? p.right.start w⟩

theorem pairAt_concat (p : Product) (w : List Nat) (x : Nat) : p.pairAt (w ++ [x]) =
    ⟨(p.leftLink? (p.pairAt w) x).map Link.next, (p.rightLink? (p.pairAt w) x).map Link.next⟩ := by
  unfold pairAt leftLink? rightLink?
  rw [Automaton.reach?_concat, Automaton.reach?_concat, Option.map_bind, Option.map_bind]
  simp only [Function.comp_def, Option.map_map]
  rfl

/-- What a pair says of an ordinal leads to the pair behind the longer input. -/
theorem target_eq_pairAt {t : PairLink} (h : p.pairLink? (p.pairAt w) x = some t) :
    t.target = p.pairAt (w ++ [x]) := by
  rw [pairAt_concat]
  exact target_together h

/-- Some input leads to every pair. -/
def Reached (p : Product) (pairs : Array Discovered) : Prop := ∀ d ∈ pairs, ∃ w, d.pair = p.pairAt w

theorem reached_start (p : Product) : p.Reached #[⟨⟨some p.left.start, some p.right.start⟩, 0⟩] := by
  intro d hd
  rw [List.mem_toArray, List.mem_singleton] at hd
  exact ⟨[], by rw [hd]; rfl⟩

/-- One round of the walk discovers pairs behind longer inputs. -/
theorem Reached.step (h : p.Reached pairs) (hd : d ∈ pairs) {n : PairNode} (hn : p.pairNode d = .ok n) :
    p.Reached (n.edges.foldl (discover (d.depth + 1)) pairs) := by
  intro d' hd'
  rcases knows_foldl_discover.1 ⟨d', hd', rfl⟩ with ⟨d'', hd'', hq⟩ | ⟨e, he, hq⟩
  · rw [← hq]
    exact h d'' hd''
  · obtain ⟨w, hw⟩ := h d hd
    have hlo : e.1.contains e.1.lo = true :=
      Edge.contains_iff.2 ⟨Nat.le_refl _, lt_of_mem_pairNode hn he⟩
    have hsays := (pairSays_pairNode hn).1 ⟨e, he, hlo, rfl⟩
    rw [hw] at hsays
    rw [hq]
    exact ⟨w ++ [e.1.lo], target_eq_pairAt hsays⟩

/-- A merge fails at a pair that some input leads to. -/
theorem exists_of_run (h : p.run = .error err) : ∃ d w, d.pair = p.pairAt w ∧ p.pairNode d = .error err := by
  have hkept : p.Kept fun pairs _ => p.Reached pairs := fun pairs done d n hI hd hn =>
    hI.step (Array.mem_of_getElem? hd) hn
  obtain ⟨pairs, done, d, hreached, hd, herr⟩ := hkept.run_error p.reached_start h
  obtain ⟨w, hw⟩ := hreached d (Array.mem_of_getElem? hd)
  exact ⟨d, w, hw, herr⟩

/-- Where a longer input leads on some side, the pair before it says something of the last ordinal. -/
theorem exists_pairLink?_of_concat (h : p.pairAt (w ++ [x]) ≠ ⟨none, none⟩) :
    ∃ t, p.pairLink? (p.pairAt w) x = some t := by
  rw [← Option.ne_none_iff_exists', pairLink?, Ne, together_eq_none]
  rintro ⟨hl, hr⟩
  rw [pairAt_concat, hl, hr] at h
  exact h rfl

theorem pairAt_ne_of_concat (h : p.pairAt (w ++ [x]) ≠ ⟨none, none⟩) : p.pairAt w ≠ ⟨none, none⟩ := by
  obtain ⟨t, ht⟩ := exists_pairLink?_of_concat h
  intro hnone
  rw [hnone] at ht
  exact nomatch ht

/-- A pair fails if it lies too deep, or if both of its states accept and may not. -/
theorem pairNode_error (h : p.pairNode d = .error err) : (∃ bound, err = .mergeDepthExceeded bound) ∨
    ∃ s t, d.pair = ⟨some s, some t⟩ ∧ (p.left.node s).isAccepting = true ∧
      (p.right.node t).isAccepting = true ∧ err = .overlappingAccept (p.left.node s).accept.toList
        ((p.right.node t).accept.shift p.idOffset).toList := by
  obtain ⟨⟨l?, r?⟩, depth⟩ := d
  cases l? <;> cases r? <;> simp only [pairNode, reduceCtorEq] at h
  case some.some s t =>
    rcases both_eq_error h with ⟨hs, ht, -, rfl⟩ | ⟨bound, -, -, rfl⟩
    · exact .inr ⟨s, t, rfl, hs, ht, rfl⟩
    · exact .inl ⟨bound, rfl⟩

/-- Where overlaps are forbidden, the states of a pair do not both accept. -/
theorem not_both_of_pairNode {n : PairNode} (h : p.pairNode d = .ok n) (hover : p.allowOverlap = false)
    {s t i j : Nat} (hpair : d.pair = ⟨some s, some t⟩) (hi : i ∈ (p.left.node s).accept) :
    j ∉ (p.right.node t).accept := by
  intro hj
  obtain ⟨q, depth⟩ := d
  subst hpair
  have hl : (p.left.node s).isAccepting = true := Node.isAccepting_iff.2 ⟨i, hi⟩
  have hr : (p.right.node t).isAccepting = true := Node.isAccepting_iff.2 ⟨j, hj⟩
  simp [pairNode, both, isAccepting_shiftNode, hl, hr, hover] at h

namespace Merged

variable {m : Automaton} {k : Nat}

/-- A state of the merge stands for the pair behind every input that leads to it. -/
theorem stands_of_reach? (h : Merged p pairs m) (hk : m.reach? m.start w = some k) :
    Stands pairs k (p.pairAt w) := by
  induction w using List.reverseRecOn generalizing k with
  | nil =>
    obtain rfl := Option.some.inj hk
    exact h.stands_start
  | append_singleton w x ih =>
    rw [Automaton.reach?_concat] at hk
    obtain ⟨k', hk', hlink⟩ := Option.bind_eq_some_iff.1 hk
    obtain ⟨j, hj, rfl⟩ := Option.map_eq_some_iff.1 hlink
    obtain ⟨t, ht, hstands, -, -⟩ := h.exists_pairLink (ih hk') hj
    rwa [← target_eq_pairAt ht]

/-- The merge has a state behind every input that leads on some side. -/
theorem exists_stands (h : Merged p pairs m) (hw : p.pairAt w ≠ ⟨none, none⟩) :
    ∃ k, Stands pairs k (p.pairAt w) := by
  induction w using List.reverseRecOn with
  | nil => exact ⟨_, h.stands_start⟩
  | append_singleton w x ih =>
    obtain ⟨t, ht⟩ := exists_pairLink?_of_concat hw
    obtain ⟨k, hk⟩ := ih (pairAt_ne_of_concat hw)
    obtain ⟨next, -, hnext⟩ := h.link?_eq_some hk ht
    rw [target_eq_pairAt ht] at hnext
    exact ⟨next, hnext⟩

/-- Where overlaps are forbidden, no input leads to states that both accept. -/
theorem not_both (h : Merged p pairs m) (hover : p.allowOverlap = false) {i j : Nat}
    (hi : i ∈ p.left.accepts w) : j ∉ p.right.accepts w := by
  intro hj
  obtain ⟨s, hs, hi⟩ := Automaton.exists_reach?_of_mem_accepts hi
  obtain ⟨t, ht, hj⟩ := Automaton.exists_reach?_of_mem_accepts hj
  have hpair : p.pairAt w = ⟨some s, some t⟩ := by rw [pairAt, hs, ht]
  obtain ⟨k, hk⟩ := h.exists_stands (w := w) (by simp [hpair])
  obtain ⟨d, n, -, hd, hn, -⟩ := h.exists_pairNode hk
  exact not_both_of_pairNode hn hover (hd.trans hpair) hi hj

end Merged

end Product

namespace Automaton

variable {a b m : Automaton} {options : MergeOptions} {err : BuildError}

/-- Merging patterns fails at a pair that lies too deep, or for an input that both sides accept; the
error names the patterns that accept the input. -/
theorem mergePattern_error (ha : a.Tight) (hb : b.Tight) (h : a.mergePattern b options = .error err) :
    (∃ bound, err = .mergeDepthExceeded bound) ∨ ∃ w i j, i ∈ a.accepts w ∧ j ∈ b.accepts w ∧
      err = .overlappingAccept (a.accepts w).toList
        ((b.accepts w).shift (a.patternProduct b options).idOffset).toList := by
  obtain ⟨d, w, hw, hd⟩ := Product.exists_of_run (run_of_mergePattern_error h)
  refine (Product.pairNode_error hd).imp id ?_
  rintro ⟨s, t, hpair, hs, ht, rfl⟩
  obtain ⟨hreach, hreach'⟩ := StatePair.mk.inj (hw.symm.trans hpair)
  change a.reach? a.start w = some s at hreach
  change b.reach? b.start w = some t at hreach'
  have haccept : ((a.patternProduct b options).left.node s).accept = a.accepts w := ha.accept_eq hreach
  have haccept' : ((a.patternProduct b options).right.node t).accept = b.accepts w := hb.accept_eq hreach'
  obtain ⟨i, hi⟩ := Node.isAccepting_iff.1 hs
  obtain ⟨j, hj⟩ := Node.isAccepting_iff.1 ht
  rw [haccept] at hi
  rw [haccept'] at hj
  exact ⟨w, i, j, hi, hj, by rw [haccept, haccept']⟩

/-- A merge without overlaps separates the inputs of both sides. -/
theorem MergedPatterns.not_both {pairs : Array Discovered} (h : MergedPatterns a b options m pairs)
    (hover : options.allowOverlap = false) {w : List Nat} {i j : Nat} (hi : i ∈ a.accepts w) :
    j ∉ b.accepts w :=
  h.merged.not_both hover hi

/-- The merge of tight automata is tight. -/
theorem MergedPatterns.tight {pairs : Array Discovered} (h : MergedPatterns a b options m pairs)
    (ha : a.WellFormed) (hid : a.patterns ≤ (a.patternProduct b options).idOffset) (hta : a.Tight)
    (htb : b.Tight) : m.Tight := by
  intro w k hk i hi
  have hleft := h.embeds_left hid
  have hright := h.embeds_right ha hid
  rcases (h.merged.mem_accept (h.merged.stands_of_reach? hk)).1 hi with ⟨s, hs, his⟩ | ⟨t, ht, hit⟩
  · have hmem := hta w s hs i his
    exact (hleft.mem_accepts (lt_of_mem_accepts hmem) w).2 hmem
  · obtain ⟨j, hj, rfl⟩ := IdSet.mem_shift.1 hit
    have hmem := htb w t ht j hj
    exact (hright.mem_accepts (lt_of_mem_accepts hmem) w).2 hmem

end Automaton

end Polymatch
