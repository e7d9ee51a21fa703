import Polymatch.Proofs.Merge.Paths

/-! # Pairs breadth first

The walk over the pairs of a merge works on them in the order of their discovery, and
this order is breadth first: the depth at which a pair has been discovered is the length
of the shortest inputs that lead to it.
-/

namespace Polymatch.Product

variable {p : Product} {pairs more : Array Discovered} {d d' : Discovered} {n : PairNode} {w : List Nat}
  {x built : Nat} {q : StatePair} {err : BuildError}

/-- The pair lies behind some input of length `n`, and behind no shorter one. -/
structure Distance (p : Product) (q : StatePair) (n : Nat) : Prop where
  exists_input : ∃ w, w.length = n ∧ p.pairAt w = q
  shortest : ∀ w, p.pairAt w = q → n ≤ w.length

/-- Pairs that are discovered together have one depth, and none of them was known. -/
theorem foldl_discover_new (depth : Nat) (edges : List PairEdge) (pairs : Array Discovered) :
    ∃ more, edges.foldl (discover depth) pairs = pairs ++ more ∧
      ∀ d ∈ more, d.depth = depth ∧ ¬ Knows pairs d.pair ∧ ∃ e ∈ edges, d.pair = e.2 := by
  induction edges generalizing pairs with
  | nil => exact ⟨#[], Array.append_empty.symm, nofun⟩
  | cons e edges ih =>
    obtain ⟨more, hmore, hnew⟩ := ih (discover depth pairs e)
    rw [List.foldl_cons, hmore]
    by_cases hknown : Knows pairs e.2
    · rw [discover, if_pos (any_pair_eq.2 hknown)] at hnew ⊢
      refine ⟨more, rfl, fun d hd => ?_⟩
      obtain ⟨hdepth, hnot, e', he', hpair⟩ := hnew d hd
      exact ⟨hdepth, hnot, e', List.mem_cons_of_mem _ he', hpair⟩
    · rw [discover, if_neg fun h => hknown (any_pair_eq.1 h)] at hnew ⊢
      refine ⟨#[⟨e.2, depth⟩] ++ more, by rw [Array.push_eq_append, Array.append_assoc], fun d hd => ?_⟩
      rcases Array.mem_append.1 hd with hd | hd
      · obtain rfl : d = ⟨e.2, depth⟩ := by simpa using hd
        exact ⟨rfl, hknown, e, List.mem_cons_self, rfl⟩
      · obtain ⟨hdepth, hnot, e', he', hpair⟩ := hnew d hd
        refine ⟨hdepth, fun h => hnot ?_, e', List.mem_cons_of_mem _ he', hpair⟩
        rw [Array.push_eq_append]
        exact h.append

/-- The pairs discovered so far, of which the first `built` have become states. -/
structure BreadthFirst (p : Product) (pairs : Array Discovered) (built : Nat) : Prop where
  start : ⟨⟨some p.left.start, some p.right.start⟩, 0⟩ ∈ pairs
  distance : ∀ d ∈ pairs, p.Distance d.pair d.depth
  ordered : ∀ (j k : Nat) (d d' : Discovered), j ≤ k → pairs[j]? = some d → pairs[k]? = some d' → d.depth ≤ d'.depth
  near : ∀ d, pairs[built]? = some d → ∀ d' ∈ pairs, d'.depth ≤ d.depth + 1
  worked : ∀ (k : Nat) (d : Discovered), k < built → pairs[k]? = some d → ∃ n, p.pairNode d = .ok n
  closed : ∀ (k : Nat) (d : Discovered), k < built → pairs[k]? = some d → ∀ x t, p.pairLink? d.pair x = some t →
    ∃ d' ∈ pairs, d'.pair = t.target ∧ d'.depth ≤ d.depth + 1

theorem breadthFirst_start (p : Product) :
    BreadthFirst p #[⟨⟨some p.left.start, some p.right.start⟩, 0⟩] 0 where
  start := by simp
  distance d hd := by
    obtain rfl : d = ⟨⟨some p.left.start, some p.right.start⟩, 0⟩ := by simpa using hd
    exact ⟨⟨[], rfl, rfl⟩, fun _ _ => Nat.zero_le _⟩
  ordered j k d d' _ hj hk := by
    obtain rfl : d = ⟨⟨some p.left.start, some p.right.start⟩, 0⟩ := by
      simpa using Array.mem_of_getElem? hj
    exact Nat.zero_le _
  near d _ d' hd' := by
    obtain rfl : d' = ⟨⟨some p.left.start, some p.right.start⟩, 0⟩ := by simpa using hd'
    exact Nat.zero_le _
  worked _ _ h := absurd h (Nat.not_lt_zero _)
  closed _ _ h := absurd h (Nat.not_lt_zero _)

theorem target_ne {t : PairLink} (h : p.pairLink? q x = some t) : t.target ≠ ⟨none, none⟩ := by
  rw [target_together h]
  intro hnone
  obtain ⟨hl, hr⟩ := StatePair.mk.inj hnone
  have := together_eq_none.2 ⟨Option.map_eq_none_iff.1 hl, Option.map_eq_none_iff.1 hr⟩
  exact nomatch this.symm.trans h

namespace BreadthFirst

variable (h : BreadthFirst p pairs built)
include h

/-- The pair behind an input is known with the depth that it should have, or the input has left behind
a pair that is still to become a state. -/
theorem exists_known (hw : p.pairAt w ≠ ⟨none, none⟩) :
    (∃ d ∈ pairs, d.pair = p.pairAt w ∧ d.depth ≤ w.length) ∨
      ∃ k d, built ≤ k ∧ pairs[k]? = some d ∧ d.depth < w.length := by
  induction w using List.reverseRecOn with
  | nil => exact .inl ⟨_, h.start, rfl, Nat.le_refl _⟩
  | append_singleton w x ih =>
    rw [List.length_append, List.length_singleton]
    rcases ih (pairAt_ne_of_concat hw) with ⟨d, hd, hpair, hle⟩ | ⟨k, d, hk, hd, hlt⟩
    · obtain ⟨t, ht⟩ := exists_pairLink?_of_concat hw
      obtain ⟨k, hk⟩ := Array.mem_iff_getElem?.1 hd
      rcases Nat.lt_or_ge k built with hlt | hge
      · obtain ⟨d', hd', hpair', hle'⟩ := h.closed k d hlt hk x t (hpair ▸ ht)
        exact .inl ⟨d', hd', hpair'.trans (target_eq_pairAt ht), by omega⟩
      · exact .inr ⟨k, d, hge, hk, by omega⟩
    · exact .inr ⟨k, d, hk, hd, by omega⟩

/-- A pair that is not known lies deeper than the next pair to become a state. -/
theorem depth_lt_of_unknown (hd : pairs[built]? = some d) (hw : p.pairAt w ≠ ⟨none, none⟩)
    (hnot : ¬ Knows pairs (p.pairAt w)) : d.depth < w.length := by
  rcases h.exists_known hw with ⟨d', hd', hpair, -⟩ | ⟨k, d', hk, hd', hlt⟩
  · exact absurd ⟨d', hd', hpair⟩ hnot
  · exact Nat.lt_of_le_of_lt (h.ordered _ _ _ _ hk hd hd') hlt

/-- A pair that is discovered behind the next pair to become a state lies one symbol deeper. -/
theorem distance_of_mem_edges {e : PairEdge} (hd : pairs[built]? = some d) (hn : p.pairNode d = .ok n)
    (he : e ∈ n.edges) (hnot : ¬ Knows pairs e.2) : p.Distance e.2 (d.depth + 1) := by
  have hlo : e.1.contains e.1.lo = true := Edge.contains_iff.2 ⟨Nat.le_refl _, lt_of_mem_pairNode hn he⟩
  have hsays := (pairSays_pairNode hn).1 ⟨e, he, hlo, rfl⟩
  obtain ⟨w, hw, hbehind⟩ := (h.distance d (Array.mem_of_getElem? hd)).exists_input
  rw [← hbehind] at hsays
  refine ⟨⟨w ++ [e.1.lo], ?_, (target_eq_pairAt hsays).symm⟩, fun w' hw' => ?_⟩
  · rw [List.length_append, hw, List.length_singleton]
  · exact h.depth_lt_of_unknown hd (hw' ▸ target_ne hsays) (hw'.symm ▸ hnot)

theorem depth_le_of_mem_append (hd : pairs[built]? = some d) (hmore : ∀ d' ∈ more, d'.depth = d.depth + 1) :
    ∀ d' ∈ pairs ++ more, d'.depth ≤ d.depth + 1 := by
  intro d' hd'
  rcases Array.mem_append.1 hd' with hd' | hd'
  · exact h.near d hd d' hd'
  · exact (hmore d' hd').le

/-- Pairs one symbol behind the next pair to become a state are the deepest, and come last. -/
theorem ordered_append (hd : pairs[built]? = some d) (hmore : ∀ d' ∈ more, d'.depth = d.depth + 1) (j k : Nat)
    (d' d'' : Discovered) (hjk : j ≤ k) (hj : (pairs ++ more)[j]? = some d')
    (hk : (pairs ++ more)[k]? = some d'') : d'.depth ≤ d''.depth := by
  rcases Nat.lt_or_ge k pairs.size with hlt | hge
  · rw [Array.getElem?_append_left (by omega)] at hj hk
    exact h.ordered j k d' d'' hjk hj hk
  · rw [Array.getElem?_append_right hge] at hk
    rw [hmore d'' (Array.mem_of_getElem? hk)]
    exact h.depth_le_of_mem_append hd hmore d' (Array.mem_of_getElem? hj)

/-- One round of the walk discovers the pairs that are one symbol away. -/
theorem step (hd : pairs[built]? = some d) (hn : p.pairNode d = .ok n) :
    BreadthFirst p (n.edges.foldl (discover (d.depth + 1)) pairs) (built + 1) := by
  have hknows := @knows_foldl_discover (d.depth + 1) n.edges pairs
  obtain ⟨more, hmore, hnew⟩ := foldl_discover_new (d.depth + 1) n.edges pairs
  rw [hmore] at hknows ⊢
  have hdepth : ∀ d' ∈ more, d'.depth = d.depth + 1 := fun d' hd' => (hnew d' hd').1
  have hlast := h.depth_le_of_mem_append hd hdepth
  have hordered := h.ordered_append hd hdepth
  have hbuilt : built < pairs.size := (Array.getElem?_eq_some_iff.1 hd).1
  have hold : ∀ {k : Nat} {d' : Discovered}, k < built + 1 → (pairs ++ more)[k]? = some d' →
      pairs[k]? = some d' := fun hk hd' => by
    rwa [Array.getElem?_append_left (by omega)] at hd'
  constructor
  case start => exact Array.mem_append_left _ h.start
  case ordered => exact hordered
  case distance =>
    intro d' hd'
    rcases Array.mem_append.1 hd' with hd' | hd'
    · exact h.distance d' hd'
    · obtain ⟨heq, hnot, e, he, hpair⟩ := hnew d' hd'
      rw [hpair] at hnot ⊢
      exact heq ▸ h.distance_of_mem_edges hd hn he hnot
  case near =>
    intro d' hd' d'' hd''
    have hle : d.depth ≤ d'.depth :=
      hordered _ _ d d' (Nat.le_succ _) ((Array.getElem?_append_left hbuilt).trans hd) hd'
    exact (hlast d'' hd'').trans (Nat.succ_le_succ hle)
  case worked =>
    intro k d' hk hd'
    replace hd' := hold hk hd'
    rcases Nat.lt_succ_iff_lt_or_eq.1 hk with hlt | rfl
    · exact h.worked k d' hlt hd'
    · exact ⟨n, Option.some.inj (hd.symm.trans hd') ▸ hn⟩
  case closed =>
    intro k d' hk hd' x t ht
    replace hd' := hold hk hd'
    rcases Nat.lt_succ_iff_lt_or_eq.1 hk with hlt | rfl
    · obtain ⟨d'', hd'', hpair, hle⟩ := h.closed k d' hlt hd' x t ht
      exact ⟨d'', Array.mem_append_left _ hd'', hpair, hle⟩
    · obtain rfl := Option.some.inj (hd.symm.trans hd')
      obtain ⟨e, he, -, heq⟩ := (pairSays_pairNode hn).2 ht
      obtain ⟨d'', hd'', hpair⟩ := hknows.2 (.inr ⟨e, he, rfl⟩)
      exact ⟨d'', hd'', by rw [hpair, ← heq], hlast d'' hd''⟩

end BreadthFirst

theorem kept_breadthFirst (p : Product) : p.Kept fun pairs done => BreadthFirst p pairs done.nodes.size := by
  intro pairs done d n hI hd hn
  simpa only [Array.size_push] using hI.step hd hn

end Polymatch.Product
