import Polymatch.Automaton.Basic
import Polymatch.Proofs.Edges.Lookup

/-! # Runs of single patterns

A run keeps the set of patterns that survive it. Seen from one pattern, it is a
walk through the states along edges that the pattern survives, and the pattern
accepts an input if the walk exists and ends in a state that accepts it.
-/

namespace Polymatch

namespace Automaton

/-- Every edge leads to a state, and ids and slots lie below the bounds. Tables whose edges lead to
states give such automata. -/
structure WellFormed (a : Automaton) : Prop where
  start_lt : a.start < a.stateCount
  next_lt : ∀ n ∈ a.nodes, ∀ e ∈ n.edges.edges, e.next < a.stateCount
  accept_lt : ∀ n ∈ a.nodes, ∀ i ∈ n.accept, i < a.patterns
  routes_lt : ∀ n ∈ a.nodes, ∀ e ∈ n.edges.edges, ∀ i ∈ e.routes, i < a.patterns
  exit_lt : ∀ n ∈ a.nodes, ∀ m ∈ n.exit, m.slot < a.captures
  marks_lt : ∀ n ∈ a.nodes, ∀ e ∈ n.edges.edges, ∀ m ∈ e.marks, m.slot < a.captures

theorem mem_nodes_of_lt {a : Automaton} {s : Nat} (h : s < a.stateCount) : a.node s ∈ a.nodes := by
  rw [node, Array.getD_eq_getD_getElem?, Array.getElem?_eq_getElem h]
  exact Array.getElem_mem h

theorem exists_node_of_mem {a : Automaton} {n : Node} (h : n ∈ a.nodes) :
    ∃ s, s < a.stateCount ∧ a.node s = n := by
  obtain ⟨s, hlt, rfl⟩ := Array.mem_iff_getElem.1 h
  refine ⟨s, hlt, ?_⟩
  rw [node, Array.getD_eq_getD_getElem?, Array.getElem?_eq_getElem hlt, Option.getD_some]

theorem node_of_le {a : Automaton} {s : Nat} (h : a.stateCount ≤ s) : a.node s = .dead := by
  rw [node, Array.getD_eq_getD_getElem?, Array.getElem?_eq_none h, Option.getD_none]

/-- A property of all nodes and of the dead one holds of every state. -/
theorem forall_node {a : Automaton} {P : Node → Prop} (h : ∀ n ∈ a.nodes, P n) (hd : P .dead)
    (s : Nat) : P (a.node s) := by
  rcases Nat.lt_or_ge s a.stateCount with hs | hs
  · exact h _ (mem_nodes_of_lt hs)
  · rw [node_of_le hs]
    exact hd

/-- There is a start state, and every edge leads to a state. -/
structure Linked (a : Automaton) : Prop where
  start_lt : a.start < a.stateCount
  next_lt : ∀ n ∈ a.nodes, ∀ e ∈ n.edges.edges, e.next < a.stateCount

theorem Linked.next_lt_of_link {a : Automaton} (h : a.Linked) {s x : Nat} {k : Link}
    (hk : (a.node s).edges.link? x = some k) : k.next < a.stateCount := by
  obtain ⟨e, he, -, rfl⟩ := EdgeMap.link?_eq_some.1 hk
  exact forall_node h.next_lt (fun _ he => nomatch he) s e he

namespace WellFormed

variable {a : Automaton} (h : a.WellFormed) {s x : Nat} {k : Link}
include h

theorem linked : a.Linked := ⟨h.start_lt, h.next_lt⟩

theorem routes_lt_of_link (hk : (a.node s).edges.link? x = some k) {i : Nat} (hi : i ∈ k.routes) :
    i < a.patterns := by
  obtain ⟨e, he, -, rfl⟩ := EdgeMap.link?_eq_some.1 hk
  exact forall_node h.routes_lt (fun _ he => nomatch he) s e he i hi

theorem marks_lt_of_link (hk : (a.node s).edges.link? x = some k) {m : Mark} (hm : m ∈ k.marks) :
    m.slot < a.captures := by
  obtain ⟨e, he, -, rfl⟩ := EdgeMap.link?_eq_some.1 hk
  exact forall_node h.marks_lt (fun _ he => nomatch he) s e he m hm

theorem accept_lt_of_mem {i : Nat} (hi : i ∈ (a.node s).accept) : i < a.patterns :=
  forall_node h.accept_lt (fun _ hi => (SortedSet.not_mem_empty _ hi).elim) s i hi

theorem exit_lt_of_mem {m : Mark} (hm : m ∈ (a.node s).exit) : m.slot < a.captures :=
  forall_node h.exit_lt (fun _ hm => (SortedSet.not_mem_empty _ hm).elim) s m hm

end WellFormed

theorem lt_boundOf {default n : Nat} {numbers : List Nat} (h : n ∈ numbers) :
    n < boundOf default numbers := by
  rw [boundOf]
  cases hm : numbers.max? with
  | none => simp [List.max?_eq_none_iff.1 hm] at h
  | some k => exact Nat.lt_succ_of_le ((List.max?_eq_some_iff.1 hm).2 n h)

theorem boundOf_le {default bound : Nat} {numbers : List Nat} (hd : default ≤ bound)
    (h : ∀ n ∈ numbers, n < bound) : boundOf default numbers ≤ bound := by
  rw [boundOf]
  cases hm : numbers.max? with
  | none => exact hd
  | some k => exact h k (List.max?_mem hm)

theorem boundOf_eq_one {numbers : List Nat} (h : ∀ n ∈ numbers, n = 0) : boundOf 1 numbers = 1 := by
  rw [boundOf]
  cases hm : numbers.max? with
  | none => rfl
  | some k => rw [h k (List.max?_mem hm)]

theorem exists_of_mem_ids {n : Node} {i : Nat} (hi : i ∈ n.ids) :
    i ∈ n.accept ∨ ∃ e ∈ n.edges.edges, i ∈ e.routes := by
  obtain ⟨s, hs, hmax⟩ := List.mem_filterMap.1 hi
  have hmem := SortedSet.mem_of_max? hmax
  rcases List.mem_cons.1 hs with rfl | hs
  · exact .inl hmem
  · obtain ⟨e, he, rfl⟩ := List.mem_map.1 hs
    exact .inr ⟨e, he, hmem⟩

theorem mem_ids {n : Node} {s : IdSet} (hs : s = n.accept ∨ ∃ e ∈ n.edges.edges, e.routes = s)
    {i : Nat} (hi : i ∈ s) : ∃ j ∈ n.ids, i ≤ j := by
  obtain ⟨j, hj, hle⟩ := SortedSet.le_max? hi
  refine ⟨j, List.mem_filterMap.2 ⟨s, ?_, hj⟩, hle⟩
  rw [List.mem_cons, List.mem_map]
  exact hs

theorem mem_slots {n : Node} {s : Marks} (hs : s = n.exit ∨ ∃ e ∈ n.edges.edges, e.marks = s)
    {m : Mark} (hm : m ∈ s) : ∃ j ∈ n.slots, m.slot ≤ j := by
  obtain ⟨j, hj, hle⟩ := Marks.le_maxSlot? hm
  refine ⟨j, List.mem_filterMap.2 ⟨s, ?_, hj⟩, hle⟩
  rw [List.mem_cons, List.mem_map]
  exact hs

/-- A table whose edges lead to states is an automaton. -/
theorem wellFormed_ofNodes {nodes : Array Node} {start : Nat} (hs : start < nodes.size)
    (hn : ∀ n ∈ nodes, ∀ e ∈ n.edges.edges, e.next < nodes.size) : (ofNodes nodes start).WellFormed := by
  have hid : ∀ n ∈ nodes, ∀ s : IdSet, (s = n.accept ∨ ∃ e ∈ n.edges.edges, e.routes = s) →
      ∀ i ∈ s, i < (ofNodes nodes start).patterns := by
    intro n hn s hs i hi
    obtain ⟨j, hj, hle⟩ := mem_ids hs hi
    exact Nat.lt_of_le_of_lt hle
      (lt_boundOf (List.mem_flatMap.2 ⟨n, Array.mem_toList_iff.2 hn, hj⟩))
  have hslot : ∀ n ∈ nodes, ∀ s : Marks, (s = n.exit ∨ ∃ e ∈ n.edges.edges, e.marks = s) →
      ∀ m ∈ s, m.slot < (ofNodes nodes start).captures := by
    intro n hn s hs m hm
    obtain ⟨j, hj, hle⟩ := mem_slots hs hm
    exact Nat.lt_of_le_of_lt hle
      (lt_boundOf (List.mem_flatMap.2 ⟨n, Array.mem_toList_iff.2 hn, hj⟩))
  exact ⟨hs, hn, fun n hn => hid n hn _ (.inl rfl), fun n hn e he => hid n hn _ (.inr ⟨e, he, rfl⟩),
    fun n hn => hslot n hn _ (.inl rfl), fun n hn e he => hslot n hn _ (.inr ⟨e, he, rfl⟩)⟩

theorem WellFormed.withAmbiguous {a : Automaton} (h : a.WellFormed) (b : Bool) :
    (a.withAmbiguous b).WellFormed :=
  ⟨h.start_lt, h.next_lt, h.accept_lt, h.routes_lt, h.exit_lt, h.marks_lt⟩

theorem WellFormed.withCaptures {a : Automaton} (h : a.WellFormed) (captures : Nat) :
    (a.withCaptures captures).WellFormed :=
  ⟨h.start_lt, h.next_lt, h.accept_lt, h.routes_lt,
    fun n hn m hm => Nat.lt_of_lt_of_le (h.exit_lt n hn m hm) (Nat.le_max_left ..),
    fun n hn e he m hm => Nat.lt_of_lt_of_le (h.marks_lt n hn e he m hm) (Nat.le_max_left ..)⟩

theorem WellFormed.withPatterns {a : Automaton} (h : a.WellFormed) (patterns : Nat) :
    (a.withPatterns patterns).WellFormed :=
  ⟨h.start_lt, h.next_lt,
    fun n hn i hi => Nat.lt_of_lt_of_le (h.accept_lt n hn i hi) (Nat.le_max_left ..),
    fun n hn e he i hi => Nat.lt_of_lt_of_le (h.routes_lt n hn e he i hi) (Nat.le_max_left ..),
    h.exit_lt, h.marks_lt⟩

theorem step?_eq_some {a : Automaton} {c c' : Cursor} {x : Nat} {marks : Marks} :
    a.step? c x = some (c', marks) ↔ ∃ k, (a.node c.state).edges.link? x = some k ∧
      (∃ i, i ∈ c.live ∩ k.routes) ∧ c' = ⟨k.next, c.live ∩ k.routes⟩ ∧ marks = k.marks := by
  simp only [step?, Node.step?, EdgeMap.link?]
  cases (a.node c.state).edges.find? x with
  | none => simp
  | some e =>
    simp only [Option.map_some, Option.some.injEq, exists_eq_left', Edge.link]
    split
    · rename_i h
      rw [SortedSet.isEmpty_iff] at h
      simp only [reduceCtorEq, false_iff]
      rintro ⟨⟨i, hi⟩, -⟩
      exact h i hi
    · rename_i h
      rw [Bool.not_eq_true, SortedSet.isEmpty_eq_false] at h
      simp only [Option.some.injEq, Prod.mk.injEq, h, true_and]
      exact and_congr eq_comm eq_comm

/-- What the edge on an ordinal says, if a pattern survives it. -/
def follow? (a : Automaton) (i s x : Nat) : Option Link :=
  ((a.node s).edges.link? x).filter (·.routes.contains i)

theorem follow?_eq_some {a : Automaton} {i s x : Nat} {k : Link} :
    a.follow? i s x = some k ↔ (a.node s).edges.link? x = some k ∧ i ∈ k.routes := by
  rw [follow?, Option.filter_eq_some_iff, SortedSet.contains_iff]

/-- The state that a pattern reaches while it survives. -/
def walk? (a : Automaton) (i : Nat) : Nat → List Nat → Option Nat
  | s, [] => some s
  | s, x :: w => (a.follow? i s x).bind fun k => a.walk? i k.next w

/-- The state that a pattern reaches while it survives, and the marks of the edges on the way. -/
def trace? (a : Automaton) (i : Nat) : Nat → List Nat → Option (List (Nat × Marks) × Nat)
  | s, [] => some ([], s)
  | s, x :: w => (a.follow? i s x).bind fun k =>
    (a.trace? i k.next w).map fun r => ((x, k.marks) :: r.1, r.2)

@[simp] theorem run?_nil (a : Automaton) (c : Cursor) : a.run? c [] = some c := rfl

@[simp] theorem run?_cons (a : Automaton) (c : Cursor) (x : Nat) (w : List Nat) :
    a.run? c (x :: w) = (a.step? c x).bind fun d => a.run? d.1 w := by
  simp only [run?, List.foldlM_cons]
  cases a.step? c x <;> rfl

/-- A pattern is alive at the end of a run exactly if it was alive before and can walk. -/
theorem walk?_eq_some {a : Automaton} {i s : Nat} {c : Cursor} {w : List Nat} :
    (∃ c', a.run? c w = some c' ∧ c'.state = s ∧ i ∈ c'.live) ↔
      i ∈ c.live ∧ a.walk? i c.state w = some s := by
  induction w generalizing c with
  | nil => simp [walk?, and_comm]
  | cons x w ih =>
    simp only [run?_cons, walk?, Option.bind_eq_some_iff]
    constructor
    · rintro ⟨c', ⟨⟨d, marks⟩, hd, hrun⟩, hs, hi⟩
      obtain ⟨k, hk, -, rfl, -⟩ := step?_eq_some.1 hd
      obtain ⟨hlive, hw⟩ := ih.1 ⟨c', hrun, hs, hi⟩
      obtain ⟨hc, hr⟩ := SortedSet.mem_inter.1 hlive
      exact ⟨hc, k, follow?_eq_some.2 ⟨hk, hr⟩, hw⟩
    · rintro ⟨hc, k, hf, hw⟩
      obtain ⟨hk, hr⟩ := follow?_eq_some.1 hf
      have hlive := SortedSet.mem_inter.2 ⟨hc, hr⟩
      obtain ⟨c', hrun, hs, hi⟩ := (ih (c := ⟨k.next, c.live ∩ k.routes⟩)).2 ⟨hlive, hw⟩
      exact ⟨c', ⟨_, step?_eq_some.2 ⟨k, hk, ⟨i, hlive⟩, rfl, rfl⟩, hrun⟩, hs, hi⟩

theorem mem_accepts {a : Automaton} {i : Nat} {w : List Nat} : i ∈ a.accepts w ↔
    i < a.patterns ∧ ∃ s, a.walk? i a.start w = some s ∧ i ∈ (a.node s).accept := by
  have hrun := fun s => walk?_eq_some (a := a) (i := i) (s := s) (c := a.initial) (w := w)
  simp only [initial, routes, IdSet.mem_range] at hrun
  simp only [accepts, initial, routes] at hrun ⊢
  constructor
  · intro h
    split at h
    · rename_i c hc
      obtain ⟨ha, hl⟩ := SortedSet.mem_inter.1 h
      obtain ⟨hi, hw⟩ := (hrun c.state).1 ⟨c, hc, rfl, hl⟩
      exact ⟨hi, c.state, hw, ha⟩
    · exact (SortedSet.not_mem_empty _ h).elim
  · rintro ⟨hi, s, hw, ha⟩
    obtain ⟨c, hc, rfl, hl⟩ := (hrun s).2 ⟨hi, hw⟩
    rw [hc]
    exact SortedSet.mem_inter.2 ⟨ha, hl⟩

/-- With a single pattern, an input matches if that pattern accepts it. -/
theorem isMatch_iff_of_patterns {a : Automaton} (h : a.patterns = 1) {w : List Nat} :
    a.isMatch w = true ↔ 0 ∈ a.accepts w := by
  rw [isMatch, Bool.not_eq_true', SortedSet.isEmpty_eq_false]
  constructor
  · rintro ⟨i, hi⟩
    have hlt := (mem_accepts.1 hi).1
    rw [h] at hlt
    rwa [Nat.lt_one_iff.1 hlt] at hi
  · exact fun h => ⟨0, h⟩

end Automaton

end Polymatch
