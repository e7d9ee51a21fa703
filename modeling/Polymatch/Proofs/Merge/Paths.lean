import Polymatch.Proofs.Matcher.Overlap

/-! # Merging alternate paths

Sides that share their ids also share the routes of their common edges, so an edge may
let a pattern through that has died on one of the sides. Between tight automata this
does no harm. The automata that merging makes of compiled patterns are all tight.
-/

namespace Polymatch

theorem IdSet.shift_zero (s : IdSet) : s.shift 0 = s :=
  SortedSet.ext_mem fun i => by simp only [mem_shift, Nat.add_zero, exists_eq_right]

namespace Automaton

/-- Wherever the pattern `i` of `a` survives an edge, the pattern `j` of `m` survives one from every
related state, to a related state. -/
def Steps (a : Automaton) (i : Nat) (m : Automaton) (j : Nat) (R : Nat → Nat → Prop) : Prop :=
  ∀ k s x c, R k s → a.follow? i s x = some c → ∃ d, m.follow? j k x = some d ∧ R d.next c.next

theorem Steps.exists_walk? {a m : Automaton} {i j k s s' : Nat} {R : Nat → Nat → Prop} (h : a.Steps i m j R)
    {w : List Nat} (hk : R k s) (hw : a.walk? i s w = some s') : ∃ k', m.walk? j k w = some k' ∧ R k' s' := by
  induction w generalizing k s with
  | nil =>
    obtain rfl := Option.some.inj hw
    exact ⟨k, rfl, hk⟩
  | cons x w ih =>
    obtain ⟨c, hc, hw⟩ := Option.bind_eq_some_iff.1 hw
    obtain ⟨d, hd, hnext⟩ := h k s x c hk hc
    obtain ⟨k', hk', hs'⟩ := ih hnext hw
    exact ⟨k', Option.bind_eq_some_iff.2 ⟨d, hd, hk'⟩, hs'⟩

end Automaton

namespace Product

variable {p : Product} {pairs : Array Discovered} {d : Discovered} {q : StatePair} {x : Nat} {err : BuildError}

theorem exists_pairLink?_of_left {c : Link} (h : p.leftLink? q x = some c) :
    ∃ t, p.pairLink? q x = some t := by
  rw [← Option.ne_none_iff_exists', pairLink?, Ne, together_eq_none, h]
  simp

theorem exists_pairLink?_of_right {c : Link} (h : p.rightLink? q x = some c) :
    ∃ t, p.pairLink? q x = some t := by
  rw [← Option.ne_none_iff_exists', pairLink?, Ne, together_eq_none, h]
  simp

namespace Merged

variable {m : Automaton} {k i : Nat} {w : List Nat}

/-- A pattern that survives an edge of the left side survives that of the merge, whatever the right
side does. -/
theorem steps_left (h : Merged p pairs m) : p.left.Steps i m i (LeftOf pairs) := by
  rintro k s x c ⟨q, hstands, hs⟩ hc
  obtain ⟨hlink, hi⟩ := Automaton.follow?_eq_some.1 hc
  have hleft : p.leftLink? q x = some c := (leftLink?_of_left hs).trans hlink
  obtain ⟨t, ht⟩ := exists_pairLink?_of_left hleft
  obtain ⟨next, hnext, htarget⟩ := h.link?_eq_some hstands ht
  have hroute : i ∈ t.routes := (mem_routes_together ht).2 (.inl ⟨c, hleft, hi⟩)
  refine ⟨_, Automaton.follow?_eq_some.2 ⟨hnext, hroute⟩, t.target, htarget, ?_⟩
  rw [target_together ht, hleft]
  rfl

/-- A pattern that survives an edge of the right side survives that of the merge, under its id there. -/
theorem steps_right (h : Merged p pairs m) : p.right.Steps i m (i + p.idOffset) (RightOf pairs) := by
  rintro k s x c ⟨q, hstands, hs⟩ hc
  obtain ⟨hlink, hi⟩ := Automaton.follow?_eq_some.1 hc
  have hright : p.rightLink? q x = some (p.shiftLink c) := by
    rw [rightLink?_of_right hs, hlink, Option.map_some]
  obtain ⟨t, ht⟩ := exists_pairLink?_of_right hright
  obtain ⟨next, hnext, htarget⟩ := h.link?_eq_some hstands ht
  have hroute : i + p.idOffset ∈ t.routes :=
    (mem_routes_together ht).2 (.inr ⟨_, hright, IdSet.mem_shift.2 ⟨i, hi, rfl⟩⟩)
  refine ⟨_, Automaton.follow?_eq_some.2 ⟨hnext, hroute⟩, t.target, htarget, ?_⟩
  rw [target_together ht, hright]
  rfl

variable (h : Merged p pairs m) (hm : m.WellFormed)
include h hm

theorem mem_accepts_of_left (hi : i ∈ p.left.accepts w) : i ∈ m.accepts w := by
  obtain ⟨-, s, hw, his⟩ := Automaton.mem_accepts.1 hi
  obtain ⟨k, hk, q, hstands, hs⟩ := h.steps_left.exists_walk? ⟨_, h.stands_start, rfl⟩ hw
  have haccept := (h.mem_accept hstands).2 (.inl ⟨s, hs, his⟩)
  exact Automaton.mem_accepts.2 ⟨hm.accept_lt_of_mem haccept, k, hk, haccept⟩

theorem mem_accepts_of_right (hi : i ∈ p.right.accepts w) : i + p.idOffset ∈ m.accepts w := by
  obtain ⟨-, s, hw, his⟩ := Automaton.mem_accepts.1 hi
  obtain ⟨k, hk, q, hstands, hs⟩ := h.steps_right.exists_walk? ⟨_, h.stands_start, rfl⟩ hw
  have haccept := (h.mem_accept hstands).2 (.inr ⟨s, hs, IdSet.mem_shift.2 ⟨i, his, rfl⟩⟩)
  exact Automaton.mem_accepts.2 ⟨hm.accept_lt_of_mem haccept, k, hk, haccept⟩

omit hm in
/-- The state behind an input accepts for patterns that accept the input on their own side. -/
theorem mem_accepts_of_reach? (hl : p.left.Tight) (hr : p.right.Tight) (hk : m.reach? m.start w = some k)
    (hi : i ∈ (m.node k).accept) : i ∈ p.left.accepts w ∪ (p.right.accepts w).shift p.idOffset := by
  rw [SortedSet.mem_union, IdSet.mem_shift]
  rcases (h.mem_accept (h.stands_of_reach? hk)).1 hi with ⟨s, hs, his⟩ | ⟨s, hs, his⟩
  · exact .inl (hl w s hs i his)
  · obtain ⟨j, hj, rfl⟩ := IdSet.mem_shift.1 his
    exact .inr ⟨j, hr w s hs j hj, rfl⟩

/-- The merge of tight automata accepts what its sides accept, even if they share ids. -/
theorem accepts_of_tight (hl : p.left.Tight) (hr : p.right.Tight) (w : List Nat) :
    m.accepts w = p.left.accepts w ∪ (p.right.accepts w).shift p.idOffset := by
  refine SortedSet.ext_mem fun i => ⟨fun hi => ?_, fun hi => ?_⟩
  · obtain ⟨k, hk, hik⟩ := Automaton.exists_reach?_of_mem_accepts hi
    exact h.mem_accepts_of_reach? hl hr hk hik
  · rw [SortedSet.mem_union, IdSet.mem_shift] at hi
    rcases hi with hi | ⟨j, hj, rfl⟩
    · exact h.mem_accepts_of_left hm hi
    · exact h.mem_accepts_of_right hm hj

theorem tight (hl : p.left.Tight) (hr : p.right.Tight) : m.Tight := fun w k hk i hi => by
  rw [h.accepts_of_tight hm hl hr]
  exact h.mem_accepts_of_reach? hl hr hk hi

end Merged

/-- Where overlaps are allowed and no depth is too deep, every pair becomes a state. -/
theorem pairNode_ne_error (hover : p.allowOverlap = true) (hdepth : p.maxDepth? = none) :
    p.pairNode d ≠ .error err := by
  obtain ⟨⟨l?, r?⟩, depth⟩ := d
  cases l? <;> cases r? <;> simp [pairNode, both, tooDeep, hover, hdepth]

end Product

namespace Automaton

variable {σ : Alphabet} {a b m : Automaton} {options : MergeOptions}

/-- Merging alternate paths never fails. -/
theorem run_pathProduct (a b : Automaton) : (a.pathProduct b).run = .ok (a.mergePath b) := by
  rw [mergePath]
  cases h : (a.pathProduct b).run with
  | ok m => rfl
  | error err =>
    obtain ⟨d, -, -, hd⟩ := Product.exists_of_run h
    exact (Product.pairNode_ne_error rfl rfl hd).elim

/-- Automata whose states and edges are in order, and that are tight. -/
structure Sound (a : Automaton) : Prop extends a.WellFormed where
  tight : a.Tight

theorem Sound.mergePath (ha : a.Sound) (hb : b.Sound) : (a.mergePath b).Sound := by
  obtain ⟨hm, -, pairs, hp⟩ := Product.run_merged ha.toWellFormed hb.toWellFormed (run_pathProduct a b)
  exact ⟨hm, hp.tight hm ha.tight hb.tight⟩

theorem Sound.mergePattern (ha : a.Sound) (hb : b.Sound) (h : a.mergePattern b options = .ok m) : m.Sound := by
  obtain ⟨pairs, hp⟩ := exists_mergedPatterns ha.toWellFormed hb.toWellFormed h
  exact ⟨hp.wellFormed, hp.merged.tight hp.wellFormed ha.tight hb.tight⟩

theorem sound_of_compile {p : Pattern} (h : p.compile σ = .ok a) : a.Sound := by
  obtain ⟨ho, -, rfl⟩ := Pattern.compile_eq_ok_iff.1 h
  exact ⟨(Pattern.compiled_automaton ho _).wellFormed, Pattern.tight_automaton ho _⟩

theorem Sound.accepts_union (ha : a.Sound) (hb : b.Sound) (w : List Nat) :
    (a.mergePath b).accepts w = a.accepts w ∪ b.accepts w := by
  obtain ⟨hm, -, pairs, hp⟩ := Product.run_merged ha.toWellFormed hb.toWellFormed (run_pathProduct a b)
  have hunion := hp.accepts_of_tight hm ha.tight hb.tight w
  rwa [show (a.pathProduct b).idOffset = 0 from rfl, IdSet.shift_zero] at hunion

/-- The automata that successful merges make of compiled patterns, whatever their options. -/
inductive Assembled (σ : Alphabet) : Automaton → Prop
  | pattern {p : Pattern} {a : Automaton} : p.compile σ = .ok a → Assembled σ a
  | path {a b : Automaton} : Assembled σ a → Assembled σ b → Assembled σ (a.mergePath b)
  | patterns {a b m : Automaton} {options : MergeOptions} : Assembled σ a → Assembled σ b →
      a.mergePattern b options = .ok m → Assembled σ m

theorem Assembled.sound (h : Assembled σ a) : a.Sound := by
  induction h with
  | pattern h => exact sound_of_compile h
  | path _ _ ha hb => exact ha.mergePath hb
  | patterns _ _ h ha hb => exact ha.mergePattern hb h

/-- Some copies of a letter. -/
def letters (n : Nat) : Pattern := .counted (.symbols [⟨97, 98⟩]) [n]

end Automaton

end Polymatch
