import Mathlib.Data.Fintype.Pigeonhole
import Mathlib.Data.Fintype.Prod
import Polymatch.Proofs.Merge.Breadth

/-! # The depth of a merge

The loop that merges two automata ends. A bound on the depth never changes a merge that
succeeds. It makes a merge fail only at a pair that lies exactly at the bound, and there
are no such pairs if the bound is at least the number of pairs in which both sides are
alive.
-/

namespace Polymatch

namespace Automaton

variable {a b : Automaton} {s t n : Nat} {u w : List Nat}

theorem reach?_append (a : Automaton) (s : Nat) (u w : List Nat) :
    a.reach? s (u ++ w) = (a.reach? s u).bind fun s => a.reach? s w :=
  List.foldlM_append

theorem Linked.reach?_lt (h : a.Linked) (hs : a.reach? a.start w = some s) : s < a.stateCount := by
  induction w using List.reverseRecOn generalizing s with
  | nil => exact Option.some.inj hs ▸ h.start_lt
  | append_singleton w x ih =>
    rw [reach?_concat] at hs
    obtain ⟨s', -, hlink⟩ := Option.bind_eq_some_iff.1 hs
    obtain ⟨k, hk, rfl⟩ := Option.map_eq_some_iff.1 hlink
    exact h.next_lt_of_link hk

/-- The shortest inputs that lead to `s` in one automaton and to `t` in another have length `n`. -/
structure MeetAt (a b : Automaton) (s t n : Nat) : Prop where
  exists_input : ∃ w, w.length = n ∧ a.reach? a.start w = some s ∧ b.reach? b.start w = some t
  shortest : ∀ w, a.reach? a.start w = some s → b.reach? b.start w = some t → n ≤ w.length

/-- Both states have an edge on some symbol. -/
def Share (a b : Automaton) (s t : Nat) : Prop :=
  ∃ x k k', (a.node s).edges.link? x = some k ∧ (b.node t).edges.link? x = some k'

/-- A shortest input passes no pair of states twice. -/
theorem MeetAt.lt (h : MeetAt a b s t n) (ha : a.Linked) (hb : b.Linked) : n < a.stateCount * b.stateCount := by
  obtain ⟨w, rfl, hs, ht⟩ := h.exists_input
  have hprefix : ∀ i, (∃ s, a.reach? a.start (w.take i) = some s) ∧ ∃ t, b.reach? b.start (w.take i) = some t := by
    intro i
    rw [← List.take_append_drop i w, reach?_append] at hs ht
    obtain ⟨s, hs, -⟩ := Option.bind_eq_some_iff.1 hs
    obtain ⟨t, ht, -⟩ := Option.bind_eq_some_iff.1 ht
    exact ⟨⟨s, hs⟩, t, ht⟩
  choose hl hr using hprefix
  choose l hl using hl
  choose r hr using hr
  by_contra hge
  -- there are more prefixes than pairs of states
  obtain ⟨i, j, hne, heq⟩ := Fintype.exists_ne_map_eq_of_card_lt
    (fun i : Fin (w.length + 1) => ((⟨l i, ha.reach?_lt (hl i)⟩, ⟨r i, hb.reach?_lt (hr i)⟩) :
      Fin a.stateCount × Fin b.stateCount))
    (by simp only [Fintype.card_prod, Fintype.card_fin]; omega)
  wlog hlt : i < j generalizing i j
  · exact this j i hne.symm heq.symm (lt_of_le_of_ne (not_lt.1 hlt) hne.symm)
  obtain ⟨hleft, hright⟩ := Prod.mk.inj heq
  rw [Fin.mk.injEq] at hleft hright
  have hshort := h.shortest (w.take i ++ w.drop j)
    (by rw [reach?_append, hl i, hleft, ← hl j, ← reach?_append, List.take_append_drop, hs])
    (by rw [reach?_append, hr i, hright, ← hr j, ← reach?_append, List.take_append_drop, ht])
  rw [List.length_append, List.length_take, List.length_drop] at hshort
  have := j.is_lt
  omega

end Automaton

namespace Product

variable {p : Product} {pairs : Array Discovered} {d : Discovered} {n : PairNode} {w : List Nat}
  {built s t bound : Nat}

section Rounds

/-- One round of the walk, and what is left to it. -/
def walkStep (p : Product) (walk : Array Discovered → Progress → Except BuildError Progress)
    (pairs : Array Discovered) (done : Progress) : Except BuildError Progress :=
  match pairs[done.nodes.size]? with
  | none => .ok done
  | some d => do
    let n ← p.pairNode d
    let pairs := n.edges.foldl (discover (d.depth + 1)) pairs
    let node := ⟨.ofDisjoint (n.edges.map (renumber pairs)), n.accept, n.exit⟩
    walk pairs ⟨done.nodes.push node, done.ambiguous || n.ambiguous⟩

/-- The automaton that a walk makes of the first pair. -/
def assemble (p : Product) (walk : Array Discovered → Progress → Except BuildError Progress) :
    Except BuildError Automaton := do
  let done ← walk #[⟨⟨some p.left.start, some p.right.start⟩, 0⟩] ⟨#[], false⟩
  let ambiguous := done.ambiguous || p.left.ambiguous || p.right.ambiguous
  return (Automaton.ofNodes done.nodes 0).withAmbiguous ambiguous

theorem walk_succ (p : Product) (fuel : Nat) : p.walk (fuel + 1) = p.walkStep (p.walk fuel) := rfl

theorem run_eq_assemble (p : Product) :
    p.run = p.assemble (p.walk ((p.left.stateCount + 1) * (p.right.stateCount + 1))) := rfl

/-- A walk without a bound on its rounds is through with all pairs after as many rounds as there are cells. -/
theorem iterate_walkStep (hl : p.left.Linked) (hr : p.right.Linked) {fuel : Nat} {done : Progress}
    (h : Numbering p pairs done.nodes)
    (hfuel : (p.left.stateCount + 1) * (p.right.stateCount + 1) ≤ fuel + done.nodes.size)
    (rest : Array Discovered → Progress → Except BuildError Progress) :
    p.walkStep^[fuel] rest pairs done = p.walk fuel pairs done := by
  induction fuel generalizing pairs done with
  | zero =>
    have hlt := h.size_lt
    have hle := h.size_le
    omega
  | succ fuel ih =>
    rw [Function.iterate_succ_apply', walk_succ, walkStep, walkStep]
    split
    · rfl
    · rename_i d hd
      cases hn : p.pairNode d with
      | error err => rfl
      | ok n => exact ih (h.step hl hr hd hn) (by simp only [Array.size_push]; omega)

theorem assemble_iterate (hl : p.left.Linked) (hr : p.right.Linked)
    (rest : Array Discovered → Progress → Except BuildError Progress) :
    p.assemble (p.walkStep^[(p.left.stateCount + 1) * (p.right.stateCount + 1)] rest) = p.run := by
  rw [run_eq_assemble, assemble, assemble,
    iterate_walkStep hl hr (numbering_start hl hr) (Nat.le_add_right ..) rest]

theorem stateCount_le (hl : p.left.Linked) (hr : p.right.Linked) {m : Automaton} (h : p.run = .ok m) :
    m.stateCount ≤ (p.left.stateCount + 1) * (p.right.stateCount + 1) - 1 := by
  obtain ⟨pairs, done, hp, hsize, -, rfl⟩ := run_numbering hl hr h
  have hlt := hp.size_lt
  rw [hsize] at hlt
  exact Nat.le_sub_one_of_lt hlt

end Rounds

section Unbounded

/-- The same merge without a bound on the depth. -/
def unbounded (p : Product) : Product := { p with maxDepth? := none }

@[simp] theorem unbounded_left : p.unbounded.left = p.left := rfl

@[simp] theorem unbounded_right : p.unbounded.right = p.right := rfl

@[simp] theorem unbounded_shiftNode : p.unbounded.shiftNode = p.shiftNode := rfl

@[simp] theorem unbounded_tooDeep {depth : Nat} : p.unbounded.tooDeep depth = none := rfl

/-- The bound only decides whether a pair becomes a state. -/
theorem pairNode_unbounded (h : p.pairNode d = .ok n) : p.unbounded.pairNode d = .ok n := by
  obtain ⟨⟨l?, r?⟩, depth⟩ := d
  cases l? <;> cases r?
  case some.some l r =>
    simp only [pairNode, both, unbounded_left, unbounded_right, unbounded_shiftNode, unbounded_tooDeep]
      at h ⊢
    split at h
    · cases h
    · rename_i hends
      refine (if_neg hends).trans ?_
      split at h
      · cases h
      · split
        · rename_i hdeep
          cases (ite_self none).symm.trans hdeep
        · exact h
  all_goals exact h

theorem walk_unbounded {fuel : Nat} {done result : Progress} (h : p.walk fuel pairs done = .ok result) :
    p.unbounded.walk fuel pairs done = .ok result := by
  induction fuel generalizing pairs done with
  | zero => exact h
  | succ fuel ih =>
    rw [walk] at h ⊢
    split at h
    · exact h
    · rename_i d hd
      obtain ⟨n, hn, hw⟩ := bind_eq_ok.1 h
      exact bind_eq_ok.2 ⟨n, pairNode_unbounded hn, ih hw⟩

theorem run_unbounded {m : Automaton} (h : p.run = .ok m) : p.unbounded.run = .ok m := by
  obtain ⟨done, hw, hm⟩ := bind_eq_ok.1 h
  exact bind_eq_ok.2 ⟨done, walk_unbounded hw, hm⟩

end Unbounded

section Bounded

theorem pairAt_eq_some : p.pairAt w = ⟨some s, some t⟩ ↔
    p.left.reach? p.left.start w = some s ∧ p.right.reach? p.right.start w = some t :=
  StatePair.mk.injEq .. ▸ Iff.rfl

theorem isEmpty_both {l r : EdgeMap} :
    (EdgeMap.split l r).both.isEmpty = false ↔ ∃ x k k', l.link? x = some k ∧ r.link? x = some k' := by
  rw [List.isEmpty_eq_false_iff_exists_mem]
  constructor
  · rintro ⟨s, hs⟩
    have hlo : s.group.contains s.group.lo = true :=
      Interval.contains_iff.2 ⟨Nat.le_refl _, EdgeMap.lt_of_mem_both hs⟩
    exact ⟨_, _, _, EdgeMap.exists_both.1 ⟨s, hs, hlo, rfl, rfl⟩⟩
  · rintro ⟨x, k, k', h⟩
    obtain ⟨s, hs, -⟩ := EdgeMap.exists_both.2 h
    exact ⟨s, hs⟩

theorem share_iff : p.left.Share p.right s t ↔
    (EdgeMap.split (p.left.node s).edges (p.shiftNode (p.right.node t)).edges).both.isEmpty = false := by
  rw [isEmpty_both]
  simp only [link?_shiftNode, Option.map_eq_some_iff]
  constructor
  · rintro ⟨x, k, k', hk, hk'⟩
    exact ⟨x, k, _, hk, k', hk', rfl⟩
  · rintro ⟨x, k, _, hk, k', hk', -⟩
    exact ⟨x, k, k', hk, hk'⟩

/-- The bound only stops pairs that share a symbol. -/
theorem pairNode_tooDeep (h : p.pairNode d = .error (.mergeDepthExceeded bound)) : ∃ s t,
    d.pair = ⟨some s, some t⟩ ∧ p.left.Share p.right s t ∧ p.maxDepth? = some bound ∧ bound ≤ d.depth := by
  obtain ⟨⟨l?, r?⟩, depth⟩ := d
  cases l? <;> cases r? <;> simp only [pairNode, reduceCtorEq] at h
  case some.some s t =>
    rcases both_eq_error h with ⟨-, -, -, heq⟩ | ⟨_, hshared, hdeep, heq⟩
    · cases heq
    · obtain rfl := BuildError.mergeDepthExceeded.inj heq
      obtain ⟨hmax, hlt⟩ := Option.filter_eq_some_iff.1 hdeep
      exact ⟨s, t, rfl, share_iff.2 hshared, hmax, by simpa [Nat.lt_succ_iff] using hlt⟩

/-- It stops every pair at the bound that shares a symbol. -/
theorem depth_lt_of_share (h : p.pairNode d = .ok n) (hpair : d.pair = ⟨some s, some t⟩)
    (hshare : p.left.Share p.right s t) (hmax : p.maxDepth? = some bound) : d.depth < bound := by
  obtain ⟨q, depth⟩ := d
  subst hpair
  by_contra hge
  have hdeep : p.tooDeep depth = some bound := by
    rw [tooDeep, hmax, Option.filter_some, if_pos (by simpa [Nat.lt_succ_iff] using hge)]
  simp only [pairNode, both, share_iff.1 hshare, Bool.false_eq_true, if_false, hdeep] at h
  split at h
  · cases h
  · cases h

theorem Distance.meetAt {depth : Nat} (h : p.Distance ⟨some s, some t⟩ depth) :
    p.left.MeetAt p.right s t depth := by
  obtain ⟨w, hw, hpair⟩ := h.exists_input
  exact ⟨⟨w, hw, pairAt_eq_some.1 hpair⟩, fun w hs ht => h.shortest w (pairAt_eq_some.2 ⟨hs, ht⟩)⟩

/-- Where the pairs before share no symbol too deep, a pair that does lies exactly at the bound: the pair
in front of it shares a symbol as well. -/
theorem BreadthFirst.depth_eq (h : BreadthFirst p pairs built) (hd : pairs[built]? = some d)
    (herr : p.pairNode d = .error (.mergeDepthExceeded bound)) : d.depth = bound := by
  obtain ⟨s, t, hpair, -, hmax, hle⟩ := pairNode_tooDeep herr
  have hdistance := h.distance d (Array.mem_of_getElem? hd)
  obtain ⟨w, hw, hbehind⟩ := hdistance.exists_input
  refine Nat.le_antisymm ?_ hle
  rcases List.eq_nil_or_concat w with rfl | ⟨u, x, rfl⟩
  · rw [← hw]
    exact Nat.zero_le _
  rw [List.concat_eq_append] at hw hbehind
  rw [List.length_append, List.length_singleton] at hw
  have hlinks := hpair ▸ hbehind
  rw [pairAt_eq_some, Automaton.reach?_concat, Automaton.reach?_concat] at hlinks
  obtain ⟨hl, hr⟩ := hlinks
  obtain ⟨s', hs', hl⟩ := Option.bind_eq_some_iff.1 hl
  obtain ⟨t', ht', hr⟩ := Option.bind_eq_some_iff.1 hr
  obtain ⟨k, hk, -⟩ := Option.map_eq_some_iff.1 hl
  obtain ⟨k', hk', -⟩ := Option.map_eq_some_iff.1 hr
  have hbefore : p.pairAt u = ⟨some s', some t'⟩ := pairAt_eq_some.2 ⟨hs', ht'⟩
  rcases h.exists_known (w := u) (by simp [hbefore]) with ⟨d', hd', hpair', hshort⟩ | ⟨j, d', hj, hd', hlt⟩
  · obtain ⟨j, hj⟩ := Array.mem_iff_getElem?.1 hd'
    rcases Nat.lt_or_ge j built with hlt | hge
    · obtain ⟨n, hn⟩ := h.worked j d' hlt hj
      have hbound := depth_lt_of_share hn (hpair'.trans hbefore) ⟨x, k, k', hk, hk'⟩ hmax
      obtain ⟨w', hw', hbehind'⟩ := (h.distance d' hd').exists_input
      have hshortest := hdistance.shortest (w' ++ [x]) (by
        rw [← hbehind, pairAt_concat, pairAt_concat, hbehind', hpair'])
      rw [List.length_append, List.length_singleton] at hshortest
      omega
    · have := h.ordered built j d d' hge hd hj
      omega
  · have := h.ordered built j d d' hj hd hd'
    omega

theorem run_tooDeep (h : p.run = .error (.mergeDepthExceeded bound)) : p.maxDepth? = some bound ∧
    ∃ s t, p.left.MeetAt p.right s t bound ∧ p.left.Share p.right s t := by
  obtain ⟨pairs, done, d, hpairs, hd, herr⟩ := (kept_breadthFirst p).run_error (breadthFirst_start p) h
  obtain ⟨s, t, hpair, hshare, hmax, -⟩ := pairNode_tooDeep herr
  have hdistance := hpairs.distance d (Array.mem_of_getElem? hd)
  rw [hpair, hpairs.depth_eq hd herr] at hdistance
  exact ⟨hmax, s, t, hdistance.meetAt, hshare⟩

end Bounded

end Product

def MergeOptions.atDepth (options : MergeOptions) (maxDepth? : Option Nat) : MergeOptions :=
  { options with maxDepth? }

namespace Automaton

variable {a b m m' : Automaton} {options : MergeOptions}

/-- Merges that differ in the bound on the depth agree where they succeed. -/
theorem mergePattern_atDepth_inj {bound? bound'? : Option Nat}
    (h : a.mergePattern b (options.atDepth bound?) = .ok m)
    (h' : a.mergePattern b (options.atDepth bound'?) = .ok m') : m = m' := by
  obtain ⟨merged, hrun, rfl⟩ := run_of_mergePattern_ok h
  obtain ⟨merged', hrun', rfl⟩ := run_of_mergePattern_ok h'
  have hunbounded' := Product.run_unbounded hrun'
  obtain rfl : merged = merged' := Except.ok.inj ((Product.run_unbounded hrun).symm.trans hunbounded')
  rfl

/-- What becomes of merging two automata at every bound on the depth. -/
structure DepthBounds (a b : Automaton) (options : MergeOptions) : Prop where
  /-- However the walk would go on after as many rounds, the merge does not ask. -/
  ends : ∀ bound? rest, (a.patternProduct b (options.atDepth bound?)).assemble
    ((a.patternProduct b (options.atDepth bound?)).walkStep^[(a.stateCount + 1) * (b.stateCount + 1)] rest) =
      (a.patternProduct b (options.atDepth bound?)).run
  size_le : ∀ bound? m, a.mergePattern b (options.atDepth bound?) = .ok m →
    m.stateCount ≤ (a.stateCount + 1) * (b.stateCount + 1) - 1
  unique : ∀ bound? bound'? m m', a.mergePattern b (options.atDepth bound?) = .ok m →
    a.mergePattern b (options.atDepth bound'?) = .ok m' → m = m'
  deep : ∀ bound, a.stateCount * b.stateCount ≤ bound → ∀ k,
    a.mergePattern b (options.atDepth (some bound)) ≠ .error (.mergeDepthExceeded k)
  exceeded : ∀ bound k, a.mergePattern b (options.atDepth (some bound)) = .error (.mergeDepthExceeded k) →
    k = bound ∧ ∃ s t, a.MeetAt b s t bound ∧ a.Share b s t
  path_ends : ∀ rest, (a.pathProduct b).assemble
    ((a.pathProduct b).walkStep^[(a.stateCount + 1) * (b.stateCount + 1)] rest) = .ok (a.mergePath b)

/-- The bound on the depth only stops a merge that goes on with both sides from a pair at the bound. Merging
paths has no bound and never fails. -/
theorem depthBounds (ha : a.Linked) (hb : b.Linked) (options : MergeOptions) : DepthBounds a b options := by
  have hexceeded : ∀ bound k,
      a.mergePattern b (options.atDepth (some bound)) = .error (.mergeDepthExceeded k) →
        k = bound ∧ ∃ s t, a.MeetAt b s t bound ∧ a.Share b s t := by
    intro bound k h
    obtain ⟨hbound, s, t, hmeet, hshare⟩ := Product.run_tooDeep (run_of_mergePattern_error h)
    obtain rfl : bound = k := Option.some.inj hbound
    exact ⟨rfl, s, t, hmeet, hshare⟩
  refine ⟨fun _ => Product.assemble_iterate ha hb, fun bound? m h => ?_, fun _ _ _ _ => mergePattern_atDepth_inj,
    fun bound hbound k h => ?_, hexceeded, fun rest => ?_⟩
  · obtain ⟨merged, hrun, rfl⟩ := run_of_mergePattern_ok h
    exact Product.stateCount_le ha hb hrun
  · obtain ⟨-, s, t, hmeet, -⟩ := hexceeded bound k h
    exact absurd (hmeet.lt ha hb) (Nat.not_lt.2 hbound)
  · rw [← run_pathProduct]
    exact Product.assemble_iterate ha hb rest

/-- States in a circle, from each of which a letter leads to the next. -/
def ring (n : Nat) : Automaton :=
  ofNodes (Array.ofFn fun i : Fin n => ⟨.ofDisjoint [⟨97, 98, (i + 1) % n, .range 1, ∅⟩], .range 1, ∅⟩) 0

/-- All pairs of states of two rings of coprime lengths lie one behind the other, so the bound is tight. -/
theorem depthBounds_rings : (ring 2).Linked ∧ (ring 3).Linked ∧
    (∃ s t, (ring 2).MeetAt (ring 3) s t 5 ∧ (ring 2).Share (ring 3) s t) ∧
      (ring 2).mergePattern (ring 3) ⟨none, none, some 5, true⟩ = .error (.mergeDepthExceeded 5) ∧
      ∃ m, (ring 2).mergePattern (ring 3) ⟨none, none, some 6, true⟩ = .ok m ∧ m.stateCount = 6 ∧
        ∀ bound? m', (ring 2).mergePattern (ring 3) ⟨none, none, bound?, true⟩ = .ok m' → m' = m := by
  have ha : (ring 2).Linked := ⟨by decide +kernel, by decide +kernel⟩
  have hb : (ring 3).Linked := ⟨by decide +kernel, by decide +kernel⟩
  have hbounds := depthBounds ha hb ⟨none, none, none, true⟩
  have herr : (ring 2).mergePattern (ring 3) ⟨none, none, some 5, true⟩ = .error (.mergeDepthExceeded 5) := by
    decide +kernel
  obtain ⟨-, hpair⟩ := hbounds.exceeded 5 5 herr
  have hok : ((ring 2).mergePattern (ring 3) ⟨none, none, some 6, true⟩).toOption.map stateCount = some 6 := by
    decide +kernel
  cases h : (ring 2).mergePattern (ring 3) ⟨none, none, some 6, true⟩ with
  | error err => simp [h, Except.toOption] at hok
  | ok m =>
    rw [h] at hok
    exact ⟨ha, hb, hpair, herr, m, rfl, Option.some.inj hok, fun bound? m' h' =>
      hbounds.unique bound? (some 6) m' m h' h⟩

end Automaton

end Polymatch
