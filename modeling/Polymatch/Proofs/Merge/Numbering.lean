import Mathlib.Data.List.Nodup
import Mathlib.Data.List.Perm.Subperm
import Polymatch.Proofs.Errors
import Polymatch.Proofs.Merge.Pair

/-! # Numbering the pairs

Walking the pairs numbers them in the order of their discovery. When the walk
ends every pair has a state, and an edge leads to the number of its target. There
are fewer pairs than the fuel of the walk, so it never stops early.
-/

namespace Polymatch.Product

variable {p : Product}

section Rounds

variable {I : Array Discovered → Progress → Prop} {pairs : Array Discovered} {done result : Progress} {fuel : Nat}
  {err : BuildError} {m : Automaton}

/-- Every round of the walk, in which the next pair becomes a state, keeps `I`. -/
def Kept (p : Product) (I : Array Discovered → Progress → Prop) : Prop :=
  ∀ pairs done d n, I pairs done → pairs[done.nodes.size]? = some d → p.pairNode d = .ok n →
    let pairs' := n.edges.foldl (discover (d.depth + 1)) pairs
    I pairs' ⟨done.nodes.push ⟨.ofDisjoint (n.edges.map (renumber pairs')), n.accept, n.exit⟩,
      done.ambiguous || n.ambiguous⟩

/-- A walk ends when all pairs have become states, or when its fuel is used up. -/
theorem Kept.walk_ok (hI : p.Kept I) (h : I pairs done) (hw : p.walk fuel pairs done = .ok result) :
    ∃ pairs', I pairs' result ∧
      (pairs'[result.nodes.size]? = none ∨ result.nodes.size = done.nodes.size + fuel) := by
  induction fuel generalizing pairs done with
  | zero =>
    obtain rfl := Except.ok.inj hw
    exact ⟨pairs, h, .inr rfl⟩
  | succ fuel ih =>
    rw [walk] at hw
    cases hd : pairs[done.nodes.size]? with
    | none =>
      simp only [hd, Except.ok.injEq] at hw
      exact hw ▸ ⟨pairs, h, .inl hd⟩
    | some d =>
      simp only [hd] at hw
      obtain ⟨n, hn, hw⟩ := bind_eq_ok.1 hw
      obtain ⟨pairs', hpairs', hend⟩ := ih (hI pairs done d n h hd hn) hw
      rw [Array.size_push] at hend
      exact ⟨pairs', hpairs', hend.imp_right fun hsize => by omega⟩

/-- A walk fails at the next pair. -/
theorem Kept.walk_error (hI : p.Kept I) (h : I pairs done) (hw : p.walk fuel pairs done = .error err) :
    ∃ pairs' done' d, I pairs' done' ∧ pairs'[done'.nodes.size]? = some d ∧ p.pairNode d = .error err := by
  induction fuel generalizing pairs done with
  | zero => exact nomatch hw
  | succ fuel ih =>
    rw [walk] at hw
    cases hd : pairs[done.nodes.size]? with
    | none => simp [hd] at hw
    | some d =>
      simp only [hd] at hw
      rcases bind_eq_error.1 hw with hn | ⟨n, hn, hw⟩
      · exact ⟨pairs, done, d, h, hd, hn⟩
      · exact ih (hI pairs done d n h hd hn) hw

theorem Kept.run_ok (hI : p.Kept I) (h : I #[⟨⟨some p.left.start, some p.right.start⟩, 0⟩] ⟨#[], false⟩)
    (hr : p.run = .ok m) : ∃ pairs done, I pairs done ∧
      (pairs[done.nodes.size]? = none ∨
        done.nodes.size = (p.left.stateCount + 1) * (p.right.stateCount + 1)) ∧
      m = (Automaton.ofNodes done.nodes 0).withAmbiguous
        (done.ambiguous || p.left.ambiguous || p.right.ambiguous) := by
  obtain ⟨done, hw, hm⟩ := bind_eq_ok.1 hr
  obtain rfl := Except.ok.inj hm
  obtain ⟨pairs, hpairs, hend⟩ := hI.walk_ok h hw
  exact ⟨pairs, done, hpairs, hend.imp_right fun hsize => by simpa using hsize, rfl⟩

theorem Kept.run_error (hI : p.Kept I) (h : I #[⟨⟨some p.left.start, some p.right.start⟩, 0⟩] ⟨#[], false⟩)
    (hr : p.run = .error err) :
    ∃ pairs done d, I pairs done ∧ pairs[done.nodes.size]? = some d ∧ p.pairNode d = .error err := by
  rcases bind_eq_error.1 hr with hw | ⟨done, -, hr⟩
  · exact hI.walk_error h hw
  · exact nomatch hr

end Rounds

/-- The pair has been discovered. -/
def Knows (pairs : Array Discovered) (q : StatePair) : Prop := ∃ d ∈ pairs, d.pair = q

theorem any_pair_eq {pairs : Array Discovered} {q : StatePair} :
    pairs.any (·.pair = q) = true ↔ Knows pairs q := by
  simp [Knows, Array.any_eq_true, Array.mem_iff_getElem]

theorem discover_extends (depth : Nat) (pairs : Array Discovered) (e : PairEdge) :
    ∃ more, discover depth pairs e = pairs ++ more := by
  rw [discover]
  split
  · exact ⟨#[], (Array.append_empty).symm⟩
  · exact ⟨#[⟨e.2, depth⟩], Array.push_eq_append ..⟩

theorem knows_discover {depth : Nat} {pairs : Array Discovered} {e : PairEdge} {q : StatePair} :
    Knows (discover depth pairs e) q ↔ Knows pairs q ∨ q = e.2 := by
  rw [discover]
  split
  · rename_i h
    refine ⟨.inl, ?_⟩
    rintro (hq | rfl)
    · exact hq
    · exact any_pair_eq.1 h
  · simp only [Knows, Array.mem_push, or_and_right, exists_or, exists_eq_left, eq_comm]

theorem distinct_discover {depth : Nat} {pairs : Array Discovered} {e : PairEdge}
    (h : (pairs.toList.map (·.pair)).Nodup) : ((discover depth pairs e).toList.map (·.pair)).Nodup := by
  rw [discover]
  split
  · exact h
  · rename_i hq
    rw [Array.toList_push, List.map_append, List.nodup_append]
    refine ⟨h, by simp, ?_⟩
    rintro q hq' _ hm rfl
    obtain rfl : q = e.2 := by simpa using hm
    obtain ⟨d, hd, hde⟩ := List.mem_map.1 hq'
    exact hq (any_pair_eq.2 ⟨d, Array.mem_toList_iff.1 hd, hde⟩)

theorem foldl_discover_extends (depth : Nat) (edges : List PairEdge) (pairs : Array Discovered) :
    ∃ more, edges.foldl (discover depth) pairs = pairs ++ more := by
  induction edges generalizing pairs with
  | nil => exact ⟨#[], (Array.append_empty).symm⟩
  | cons e edges ih =>
    obtain ⟨more, hmore⟩ := ih (discover depth pairs e)
    obtain ⟨first, hfirst⟩ := discover_extends depth pairs e
    exact ⟨first ++ more, by rw [List.foldl_cons, hmore, hfirst, Array.append_assoc]⟩

theorem knows_foldl_discover {depth : Nat} {edges : List PairEdge} {pairs : Array Discovered}
    {q : StatePair} :
    Knows (edges.foldl (discover depth) pairs) q ↔ Knows pairs q ∨ ∃ e ∈ edges, q = e.2 := by
  induction edges generalizing pairs with
  | nil => simp
  | cons e edges ih => simp [ih, knows_discover, or_assoc]

theorem distinct_foldl_discover {depth : Nat} {edges : List PairEdge} {pairs : Array Discovered}
    (h : (pairs.toList.map (·.pair)).Nodup) :
    ((edges.foldl (discover depth) pairs).toList.map (·.pair)).Nodup := by
  induction edges generalizing pairs with
  | nil => exact h
  | cons e edges ih => exact ih (distinct_discover h)

theorem Knows.append {pairs more : Array Discovered} {q : StatePair} (h : Knows pairs q) :
    Knows (pairs ++ more) q := by
  obtain ⟨d, hd, hq⟩ := h
  exact ⟨d, Array.mem_append_left _ hd, hq⟩

theorem Knows.place {pairs : Array Discovered} {q : StatePair} (h : Knows pairs q) :
    ∃ j d, pairs.findIdx? (·.pair = q) = some j ∧ pairs[j]? = some d ∧ d.pair = q := by
  obtain ⟨d, hd, hq⟩ := h
  obtain ⟨j, hj⟩ : ∃ j, pairs.findIdx? (·.pair = q) = some j :=
    ⟨_, Array.findIdx?_eq_some_of_exists ⟨d, hd, by simpa using hq⟩⟩
  obtain ⟨hlt, hpair, -⟩ := Array.findIdx?_eq_some_iff_getElem.1 hj
  exact ⟨j, pairs[j], hj, Array.getElem?_eq_getElem hlt, by simpa using hpair⟩

/-- Pairs discovered later do not move a number. -/
theorem renumber_append {pairs : Array Discovered} (more : Array Discovered) {e : PairEdge}
    (h : Knows pairs e.2) : renumber (pairs ++ more) e = renumber pairs e := by
  obtain ⟨j, d, hj, -⟩ := h.place
  rw [renumber, renumber, Array.findIdx?_append, hj, Option.some_or]

/-- The states of the pair exist, and there is one. -/
structure InRange (p : Product) (q : StatePair) : Prop where
  left_lt : ∀ s, q.left? = some s → s < p.left.stateCount
  right_lt : ∀ s, q.right? = some s → s < p.right.stateCount
  nonempty : q ≠ ⟨none, none⟩

/-- The place of a pair in a table with a row for every left side and a column for every right
side; a missing side comes first. -/
def cell (p : Product) (q : StatePair) : Nat :=
  q.left?.elim 0 (· + 1) * (p.right.stateCount + 1) + q.right?.elim 0 (· + 1)

theorem elim_lt {s? : Option Nat} {n : Nat} (h : ∀ s, s? = some s → s < n) :
    s?.elim 0 (· + 1) < n + 1 := by
  cases s? with
  | none => exact Nat.succ_pos n
  | some s => exact Nat.succ_lt_succ (h s rfl)

theorem elim_inj {s? t? : Option Nat} (h : s?.elim 0 (· + 1) = t?.elim 0 (· + 1)) : s? = t? := by
  cases s? <;> cases t? <;> simp_all

theorem cell_inj {q q' : StatePair} (h : p.InRange q) (h' : p.InRange q') (hc : p.cell q = p.cell q') :
    q = q' := by
  have hlt := elim_lt h.right_lt
  have hlt' := elim_lt h'.right_lt
  have hdiv := congrArg (· / (p.right.stateCount + 1)) hc
  have hmod := congrArg (· % (p.right.stateCount + 1)) hc
  simp only [cell, Nat.mul_comm _ (p.right.stateCount + 1), Nat.mul_add_div (Nat.succ_pos _),
    Nat.div_eq_of_lt hlt, Nat.div_eq_of_lt hlt', Nat.add_zero] at hdiv
  simp only [cell, Nat.mul_comm _ (p.right.stateCount + 1), Nat.mul_add_mod,
    Nat.mod_eq_of_lt hlt, Nat.mod_eq_of_lt hlt'] at hmod
  cases q; cases q'
  simp only [StatePair.mk.injEq]
  exact ⟨elim_inj hdiv, elim_inj hmod⟩

theorem cell_lt {q : StatePair} (h : p.InRange q) :
    p.cell q < (p.left.stateCount + 1) * (p.right.stateCount + 1) := by
  have hl := elim_lt h.left_lt
  have hr := elim_lt h.right_lt
  calc p.cell q < (q.left?.elim 0 (· + 1) + 1) * (p.right.stateCount + 1) := by
        rw [cell, Nat.succ_mul]
        exact Nat.add_lt_add_left hr _
    _ ≤ _ := Nat.mul_le_mul_right _ hl

theorem cell_pos {q : StatePair} (h : p.InRange q) : 0 < p.cell q := by
  obtain ⟨l?, r?⟩ := q
  cases l? <;> cases r?
  case none.none => exact absurd rfl h.nonempty
  all_goals
    simp only [cell, Option.elim, Nat.succ_mul]
    omega

/-- Distinct pairs of existing states are fewer than the cells of the table. -/
theorem length_lt_of_distinct {qs : List StatePair} (hd : qs.Nodup) (h : ∀ q ∈ qs, p.InRange q) :
    qs.length < (p.left.stateCount + 1) * (p.right.stateCount + 1) := by
  have hnodup : (0 :: qs.map p.cell).Nodup := by
    refine List.nodup_cons.2 ⟨fun h0 => ?_, ?_⟩
    · obtain ⟨q, hq, h0⟩ := List.mem_map.1 h0
      exact absurd h0 (Nat.ne_of_gt (cell_pos (h q hq)))
    · exact hd.map_on fun q hq q' hq' => cell_inj (h q hq) (h q' hq')
  have hsub : (0 :: qs.map p.cell) ⊆
      List.range ((p.left.stateCount + 1) * (p.right.stateCount + 1)) := by
    intro n hn
    rw [List.mem_range]
    rcases List.mem_cons.1 hn with rfl | hn
    · exact Nat.mul_pos (Nat.succ_pos _) (Nat.succ_pos _)
    · obtain ⟨q, hq, rfl⟩ := List.mem_map.1 hn
      exact cell_lt (h q hq)
  have hlen := (hnodup.subperm hsub).length_le
  rw [List.length_cons, List.length_map, List.length_range] at hlen
  exact hlen

/-- The targets of a merged state exist. -/
theorem inRange_of_mem_edges (hl : p.left.Linked) (hr : p.right.Linked) {d : Discovered}
    {n : PairNode} (h : p.pairNode d = .ok n) {e : PairEdge} (he : e ∈ n.edges) : p.InRange e.2 := by
  have hlt := lt_of_mem_pairNode h he
  have hedge : PairSays n.edges e.1.lo ⟨e.1.routes, e.1.marks, e.2⟩ :=
    ⟨e, he, Edge.contains_iff.2 ⟨Nat.le_refl _, hlt⟩, rfl⟩
  have hleft : ∀ a, p.leftLink? d.pair e.1.lo = some a → a.next < p.left.stateCount := by
    intro a ha
    obtain ⟨s, -, ha⟩ := Option.bind_eq_some_iff.1 ha
    exact hl.next_lt_of_link ha
  have hright : ∀ b, p.rightLink? d.pair e.1.lo = some b → b.next < p.right.stateCount := by
    intro b hb
    obtain ⟨s, -, hb⟩ := Option.bind_eq_some_iff.1 hb
    obtain ⟨k, hk, rfl⟩ := Option.map_eq_some_iff.1 hb
    exact hr.next_lt_of_link (k := k) hk
  have hq := (pairSays_pairNode h).1 hedge
  generalize e.2 = q at hq
  rw [pairLink?] at hq
  cases ha : p.leftLink? d.pair e.1.lo <;> cases hb : p.rightLink? d.pair e.1.lo <;>
    simp only [ha, hb, together, reduceCtorEq, Option.some.injEq, PairLink.mk.injEq] at hq
  all_goals
    obtain ⟨-, -, rfl⟩ := hq
    constructor <;> simp_all

/-- The states built so far belong to the pairs discovered first, and their edges lead to the
numbers of known pairs. -/
structure Numbering (p : Product) (pairs : Array Discovered) (nodes : Array Node) : Prop where
  start : ∃ d, pairs[0]? = some d ∧ d.pair = ⟨some p.left.start, some p.right.start⟩
  distinct : (pairs.toList.map (·.pair)).Nodup
  inRange : ∀ d ∈ pairs, p.InRange d.pair
  size_le : nodes.size ≤ pairs.size
  built : ∀ (k : Nat) (node : Node), nodes[k]? = some node → ∃ d n, pairs[k]? = some d ∧ p.pairNode d = .ok n ∧
    (∀ e ∈ n.edges, Knows pairs e.2) ∧
    node = ⟨.ofDisjoint (n.edges.map (renumber pairs)), n.accept, n.exit⟩

variable {pairs : Array Discovered} {nodes : Array Node}

theorem Numbering.size_lt (h : Numbering p pairs nodes) :
    pairs.size < (p.left.stateCount + 1) * (p.right.stateCount + 1) := by
  have := length_lt_of_distinct h.distinct fun q hq => by
    obtain ⟨d, hd, rfl⟩ := List.mem_map.1 hq
    exact h.inRange d (Array.mem_toList_iff.1 hd)
  simpa using this

theorem numbering_start (hl : p.left.Linked) (hr : p.right.Linked) :
    Numbering p #[⟨⟨some p.left.start, some p.right.start⟩, 0⟩] #[] where
  start := ⟨_, rfl, rfl⟩
  distinct := by simp
  inRange := by
    intro d hd
    obtain rfl : d = ⟨⟨some p.left.start, some p.right.start⟩, 0⟩ := by simpa using hd
    constructor
    · rintro s ⟨⟩
      exact hl.start_lt
    · rintro s ⟨⟩
      exact hr.start_lt
    · simp
  size_le := Nat.zero_le _
  built k node h := by simp at h

/-- One round of the walk builds the next state. -/
theorem Numbering.step (hl : p.left.Linked) (hr : p.right.Linked) (h : Numbering p pairs nodes)
    {d : Discovered} (hd : pairs[nodes.size]? = some d) {n : PairNode} (hn : p.pairNode d = .ok n) :
    let pairs' := n.edges.foldl (discover (d.depth + 1)) pairs
    Numbering p pairs' (nodes.push ⟨.ofDisjoint (n.edges.map (renumber pairs')), n.accept, n.exit⟩) := by
  intro pairs'
  have hknows : ∀ e ∈ n.edges, Knows pairs' e.2 := fun e he => knows_foldl_discover.2 (.inr ⟨e, he, rfl⟩)
  have hdistinct : (pairs'.toList.map (·.pair)).Nodup := distinct_foldl_discover h.distinct
  have hrange : ∀ d ∈ pairs', p.InRange d.pair := by
    intro d' hd'
    rcases knows_foldl_discover.1 ⟨d', hd', rfl⟩ with ⟨d'', hd'', hq⟩ | ⟨e, he, hq⟩
    · exact hq ▸ h.inRange d'' hd''
    · exact hq ▸ inRange_of_mem_edges hl hr hn he
  obtain ⟨more, hmore⟩ : ∃ more, pairs' = pairs ++ more := foldl_discover_extends ..
  have hkeep : ∀ {k : Nat} {d : Discovered}, pairs[k]? = some d → pairs'[k]? = some d := by
    intro k d hk
    obtain ⟨hlt, -⟩ := Array.getElem?_eq_some_iff.1 hk
    rw [hmore, Array.getElem?_append_left hlt, hk]
  obtain ⟨d₀, hd₀, hq₀⟩ := h.start
  refine ⟨⟨d₀, hkeep hd₀, hq₀⟩, hdistinct, hrange, ?_, ?_⟩
  · obtain ⟨hlt, -⟩ := Array.getElem?_eq_some_iff.1 hd
    rw [hmore, Array.size_push, Array.size_append]
    omega
  · intro k node hk
    rw [Array.getElem?_push] at hk
    split at hk
    · rename_i hlast
      obtain rfl := Option.some.inj hk
      exact ⟨d, n, hkeep (hlast ▸ hd), hn, hknows, rfl⟩
    · obtain ⟨d', n', hd', hn', hknow', rfl⟩ := h.built k node hk
      refine ⟨d', n', hkeep hd', hn', fun e he => hmore ▸ (hknow' e he).append, ?_⟩
      have : n'.edges.map (renumber pairs') = n'.edges.map (renumber pairs) :=
        List.map_congr_left fun e he => hmore ▸ renumber_append more (hknow' e he)
      rw [this]

/-- Unless the flag is up, no pair that has become a state met different marks. -/
def Flags (p : Product) (pairs : Array Discovered) (done : Progress) : Prop :=
  done.ambiguous = false → ∀ (k : Nat) (d : Discovered) (n : PairNode), k < done.nodes.size → pairs[k]? = some d →
    p.pairNode d = .ok n → n.ambiguous = false

theorem kept_flags (p : Product) : p.Kept p.Flags := by
  intro pairs done d n h hd hn pairs' hflag k d' n' hk hd' hn'
  obtain ⟨hbefore, hnow⟩ := Bool.or_eq_false_iff.1 hflag
  obtain ⟨more, hmore⟩ : ∃ more, pairs' = pairs ++ more := foldl_discover_extends ..
  obtain ⟨hlt, -⟩ := Array.getElem?_eq_some_iff.1 hd
  rw [Array.size_push] at hk
  rw [hmore, Array.getElem?_append_left (by omega)] at hd'
  rcases Nat.lt_succ_iff_lt_or_eq.1 hk with hk | rfl
  · exact h hbefore k d' n' hk hd' hn'
  · obtain rfl := Option.some.inj (hd.symm.trans hd')
    exact Except.ok.inj (hn.symm.trans hn') ▸ hnow

/-- The merged automaton is a table that numbers all pairs that can be reached. -/
theorem run_numbering (hl : p.left.Linked) (hr : p.right.Linked) {m : Automaton} (h : p.run = .ok m) :
    ∃ pairs done, Numbering p pairs done.nodes ∧ pairs.size = done.nodes.size ∧ p.Flags pairs done ∧
      m = (Automaton.ofNodes done.nodes 0).withAmbiguous
        (done.ambiguous || p.left.ambiguous || p.right.ambiguous) := by
  have hkept : p.Kept fun pairs done => Numbering p pairs done.nodes ∧ p.Flags pairs done :=
    fun pairs done d n hI hd hn => ⟨hI.1.step hl hr hd hn, p.kept_flags pairs done d n hI.2 hd hn⟩
  obtain ⟨pairs, done, ⟨hp, hflags⟩, hend, hm⟩ := hkept.run_ok
    ⟨numbering_start hl hr, fun _ _ _ _ hk => absurd hk (Nat.not_lt_zero _)⟩ h
  refine ⟨pairs, done, hp, ?_, hflags, hm⟩
  have hlt := hp.size_lt
  have hle := hp.size_le
  rcases hend with hnone | hsize
  · have hge := Array.getElem?_eq_none_iff.1 hnone
    omega
  · omega

end Polymatch.Product
