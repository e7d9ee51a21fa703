import Mathlib.Data.Finset.Powerset
import Mathlib.Order.Interval.Finset.Nat
import Polymatch.Proofs.Arena.Resolve
import Polymatch.Proofs.Automaton.Runs

/-! # Freezing arenas

Freezing lists the nodes that are reached, each once, and turns the place of a node
in the list into a state. Only nodes of the arena and unions of them are reached, so
the list is finite and its bound suffices as fuel. In the end every state leads to
states, and says what its node does.
-/

namespace Polymatch.Arena

variable {g₀ g g' h : Arena} {order order' : Array Nat} {i j k t x : Nat} {n : Node}

section Size

/-- Besides the nodes that were there at first, there are at most as many as sets of them. -/
theorem Grounded.size_le (hb : Grounded g₀ g) : g.size ≤ g₀.size + 2 ^ g₀.size := by
  have hunion : ∀ i, ∃ members : IdSet, g₀.size ≤ i → i < g.size →
      g.recipe i = .union members ∧ ∀ m ∈ members, m < g₀.size ∧ g₀.Atomic m := by
    intro i
    by_cases hi : g₀.size ≤ i ∧ i < g.size
    · obtain ⟨members, hm⟩ := hb.unions i hi.1 hi.2
      exact ⟨members, fun _ _ => hm⟩
    · exact ⟨∅, fun h h' => absurd ⟨h, h'⟩ hi⟩
  choose members hmembers using hunion
  have hcard : (Finset.Ico g₀.size g.size).card ≤ (Finset.range g₀.size).powerset.card := by
    refine Finset.card_le_card_of_injOn (fun i => (members i).toList.toFinset) ?_ ?_
    · intro i hi
      obtain ⟨hge, hlt⟩ := Finset.mem_Ico.1 hi
      refine Finset.mem_coe.2 (Finset.mem_powerset.2 fun m hm => Finset.mem_range.2 ?_)
      exact (hmembers i hge hlt).2 m (List.mem_toFinset.1 hm) |>.1
    · intro i hi j hj heq
      obtain ⟨hi, hi'⟩ := Finset.mem_Ico.1 hi
      obtain ⟨hj, hj'⟩ := Finset.mem_Ico.1 hj
      have hsame : members i = members j := SortedSet.ext_mem fun m => by
        rw [SortedSet.mem_def, SortedSet.mem_def, ← List.mem_toFinset, ← List.mem_toFinset]
        exact Finset.ext_iff.1 heq m
      have hrecipe : g.recipe i = g.recipe j := by
        rw [(hmembers i hi hi').1, (hmembers j hj hj').1, hsame]
      rcases Nat.lt_trichotomy i j with hij | hij | hij
      · exact absurd hrecipe (hb.distinct i j hi hij hj')
      · exact hij
      · exact absurd hrecipe.symm (hb.distinct j i hj hij hi')
  rw [Nat.card_Ico, Finset.card_powerset, Finset.card_range] at hcard
  omega

end Size

section Discover

/-- Distinct nodes of an arena. -/
structure Listed (g : Arena) (order : Array Nat) : Prop where
  nodup : order.toList.Nodup
  lt : ∀ i ∈ order, i < g.size

theorem Listed.size_le (h : Listed g order) : order.size ≤ g.size := by
  have hsub : order.toList.toFinset ⊆ Finset.range g.size := fun i hi =>
    Finset.mem_range.2 (h.lt i (Array.mem_toList_iff.1 (List.mem_toFinset.1 hi)))
  have hcard := Finset.card_le_card hsub
  rwa [List.toFinset_card_of_nodup h.nodup, Finset.card_range, Array.length_toList] at hcard

theorem Listed.grows (h : Listed g order) (hg : Grows g g') : Listed g' order :=
  ⟨h.nodup, fun i hi => Nat.lt_of_lt_of_le (h.lt i hi) hg.size_le⟩

/-- The places of nodes stay as they are. -/
def Extends (order order' : Array Nat) : Prop := ∀ k i : Nat, order[k]? = some i → order'[k]? = some i

theorem Extends.mem (h : Extends order order') (hi : i ∈ order) : i ∈ order' := by
  obtain ⟨k, hk, rfl⟩ := Array.mem_iff_getElem.1 hi
  exact Array.mem_of_getElem? (h k _ (Array.getElem?_eq_getElem hk))

theorem Extends.size_le (h : Extends order order') : order.size ≤ order'.size := by
  rcases Nat.eq_zero_or_pos order.size with h0 | hpos
  · omega
  · have hlast := h (order.size - 1) _ (Array.getElem?_eq_getElem (by omega))
    obtain ⟨hlt, -⟩ := Array.getElem?_eq_some_iff.1 hlast
    omega

theorem listed_discover (hg : g.WellFormed) (h : Listed g order) {e : Edge} (he : e.Within g.size) :
    Listed g (g.discover order e) ∧ Extends order (g.discover order e) ∧
      g.canonical e.next ∈ g.discover order e := by
  have hlt := canonical_lt hg he.next_lt
  simp only [discover]
  split
  · rename_i hc
    exact ⟨h, fun _ _ => id, by simpa using hc⟩
  · rename_i hc
    have hnew : g.canonical e.next ∉ order := by simpa using hc
    refine ⟨⟨?_, ?_⟩, ?_, Array.mem_push_self⟩
    · rw [Array.toList_push]
      refine List.nodup_append.2 ⟨h.nodup, List.nodup_singleton _, ?_⟩
      rintro i hi j hj rfl
      rw [List.mem_singleton] at hj
      exact hnew (hj ▸ Array.mem_toList_iff.1 hi)
    · intro i hi
      rcases Array.mem_push.1 hi with hi | rfl
      · exact h.lt i hi
      · exact hlt
    · intro k i hk
      obtain ⟨hlt, -⟩ := Array.getElem?_eq_some_iff.1 hk
      rw [Array.getElem?_push, if_neg (Nat.ne_of_lt hlt), hk]

/-- Discovering the edges of a node lists all of their targets. -/
theorem listed_discoverAll (hg : g.WellFormed) (h : Listed g order) {edges : List Edge}
    (he : ∀ e ∈ edges, e.Within g.size) :
    Listed g (edges.foldl g.discover order) ∧ Extends order (edges.foldl g.discover order) ∧
      ∀ e ∈ edges, g.canonical e.next ∈ edges.foldl g.discover order := by
  induction edges generalizing order with
  | nil => exact ⟨h, fun _ _ => id, fun e he => (nomatch he)⟩
  | cons e edges ih =>
    obtain ⟨he, hrest⟩ := List.forall_mem_cons.1 he
    obtain ⟨hlisted, hext, hmem⟩ := listed_discover hg h he
    obtain ⟨hlisted', hext', hmem'⟩ := ih hlisted hrest
    refine ⟨hlisted', fun k i hk => hext' k i (hext k i hk), List.forall_mem_cons.2 ⟨?_, hmem'⟩⟩
    exact hext'.mem hmem

end Discover

section States

/-- The edge of a state leads to the place of a node that stands for the target. -/
structure Points (g : Arena) (order : Array Nat) (placed k : Link) : Prop where
  routes : placed.routes = k.routes
  marks : placed.marks = k.marks
  target : ∃ t, order[placed.next]? = some t ∧ ∀ h : Arena, Settles g h → Covers h t (· = k.next)

/-- The state says what the node does, and leads to places of nodes. -/
structure Placed (g : Arena) (order : Array Nat) (i : Nat) (s n : Node) : Prop where
  within : n.Within g.size
  describes : Describes g (· = i) n
  accept : s.accept = n.accept
  exit : s.exit = n.exit
  points : ∀ x, Option.Rel (Points g order) (s.edges.link? x) (n.edges.link? x)

theorem Points.mono {placed k : Link} (hp : Points g order placed k) (hg : Grows g g')
    (he : Extends order order') : Points g' order' placed k := by
  obtain ⟨t, ht, hc⟩ := hp.target
  exact ⟨hp.routes, hp.marks, t, he _ _ ht, fun h hs => hc h (hg.trans_settles hs)⟩

theorem Placed.mono {s : Node} (hp : Placed g order i s n) (hr : Resolves g₀ g g')
    (he : Extends order order') : Placed g' order' i s n where
  within := hp.within.mono hr.grows.size_le
  describes := hr.describes hp.describes
  accept := hp.accept
  exit := hp.exit
  points x := by
    have hx := hp.points x
    generalize s.edges.link? x = p? at hx
    generalize n.edges.link? x = k? at hx
    cases hx with
    | none => exact .none
    | some h => exact .some (h.mono hr.grows he)

theorem covers_place (hg : g.WellFormed) (hs : Settles g h) (i : Nat) :
    Covers h (g.canonical i) (· = i) := fun on? l marks => by
  simp [path_canonical hg hs (pending_none g)]

theorem getElem?_of_idxOf? (h : order.idxOf? i = some k) : order[k]? = some i := by
  rw [Array.idxOf?_eq_map_finIdxOf?_val, Option.map_eq_some_iff] at h
  obtain ⟨k, hk, rfl⟩ := h
  have heq : order[k.val] = i := (Array.finIdxOf?_eq_some_iff.1 hk).1
  rw [Array.getElem?_eq_getElem k.isLt, heq]

/-- Renumbering the edges of a node turns it into a state. -/
theorem placed_renumber (hg : g.WellFormed) (hw : n.Within g.size) (hd : Describes g (· = i) n)
    (hmem : ∀ e ∈ n.edges.edges, g.canonical e.next ∈ order) :
    Placed g order i { n with edges := n.edges.map (g.renumber order) } n where
  within := hw
  describes := hd
  accept := rfl
  exit := rfl
  points x := by
    have hlink : (n.edges.map (g.renumber order)).link? x = (n.edges.link? x).map fun k =>
        { k with next := (order.idxOf? (g.canonical k.next)).getD 0 } :=
      EdgeMap.link?_map (fun _ => rfl) x
    rw [hlink]
    cases hk : n.edges.link? x with
    | none => exact .none
    | some k =>
      refine .some ⟨rfl, rfl, g.canonical k.next, ?_, fun h hs => covers_place hg hs k.next⟩
      obtain ⟨e, he, -, rfl⟩ := EdgeMap.link?_eq_some.1 hk
      obtain ⟨m, hm⟩ := Option.isSome_iff_exists.1 (Array.isSome_idxOf?.2 (hmem e he))
      simp only [Edge.link, hm, Option.getD_some]
      exact getElem?_of_idxOf? hm

end States

section Freeze

/-- The list of nodes and the states of those dealt with so far. -/
structure Freezing (g₀ g : Arena) (order : Array Nat) (nodes : Array Node) : Prop where
  based : Based g₀ g
  listed : Listed g order
  le : nodes.size ≤ order.size
  placed : ∀ {k i : Nat} {s : Node}, order[k]? = some i → nodes[k]? = some s →
    ∃ n, Placed g order i s n

variable {nodes : Array Node}

theorem Freezing.step (hf : Freezing g₀ g order nodes) (h₀ : g₀.WellFormed)
    (hi : order[nodes.size]? = some i) :
    let r := g.resolve i
    let order' := r.1.edges.edges.foldl r.2.discover order
    Freezing g₀ r.2 order' (nodes.push { r.1 with edges := r.1.edges.map (r.2.renumber order') }) ∧
      Extends order order' := by
  have hone := resolved_resolve h₀ hf.based (hf.listed.lt i (Array.mem_of_getElem? hi))
  have hg := hone.resolves.grounded.wellFormed
  dsimp only
  generalize g.resolve i = r at hone hg
  obtain ⟨n, g'⟩ := r
  obtain ⟨hlisted, hext, hmem⟩ := listed_discoverAll hg (hf.listed.grows hone.resolves.grows)
    hone.within.edge
  generalize n.edges.edges.foldl g'.discover order = order' at hlisted hext hmem
  obtain ⟨hlt, -⟩ := Array.getElem?_eq_some_iff.1 hi
  refine ⟨⟨hone.resolves.based hf.based, hlisted, ?_, fun {k j s} hj hs => ?_⟩, hext⟩
  · have := hext.size_le
    rw [Array.size_push]
    omega
  · rw [Array.getElem?_push] at hs
    split at hs
    · rename_i hk
      subst hk
      obtain rfl := Option.some.inj hs
      obtain rfl : i = j := Option.some.inj ((hext _ _ hi).symm.trans hj)
      exact ⟨n, placed_renumber hg hone.within hone.describes hmem⟩
    · obtain ⟨hk, -⟩ := Array.getElem?_eq_some_iff.1 hs
      have hold : order[k]? = some order[k] := Array.getElem?_eq_getElem (Nat.lt_of_lt_of_le hk hf.le)
      obtain rfl : order[k] = j := Option.some.inj ((hext _ _ hold).symm.trans hj)
      obtain ⟨m, hm⟩ := hf.placed hold hs
      exact ⟨m, hm.mono hone.resolves hext⟩

/-- Freezing deals with all nodes of the list before the fuel runs out. -/
theorem freezing_freezeWithin (h₀ : g₀.WellFormed) {fuel : Nat} (hf : Freezing g₀ g order nodes)
    (hfuel : g₀.size + 2 ^ g₀.size ≤ nodes.size + fuel) :
    Resolves g₀ g (g.freezeWithin fuel order nodes).2 ∧
      ∃ order', Freezing g₀ (g.freezeWithin fuel order nodes).2 order' (g.freezeWithin fuel order nodes).1 ∧
        Extends order order' ∧ order'.size = (g.freezeWithin fuel order nodes).1.size := by
  induction fuel generalizing g order nodes with
  | zero =>
    refine ⟨.refl hf.based.toGrounded, order, hf, fun _ _ => id, ?_⟩
    have := hf.listed.size_le
    have := hf.based.size_le
    have := hf.le
    simp only [freezeWithin]
    omega
  | succ fuel ih =>
    rw [freezeWithin]
    cases hi : order[nodes.size]? with
    | none =>
      have := hf.le
      have := Array.getElem?_eq_none_iff.1 hi
      refine ⟨.refl hf.based.toGrounded, order, hf, fun _ _ => id, ?_⟩
      simp only
      omega
    | some i =>
      have hone := resolved_resolve h₀ hf.based (hf.listed.lt i (Array.mem_of_getElem? hi))
      obtain ⟨hstep, hext⟩ := hf.step h₀ hi
      obtain ⟨hresolves, order', hf', hext', hsize⟩ := ih hstep (by rw [Array.size_push]; omega)
      exact ⟨hone.resolves.trans hresolves, order', hf', fun k i hk => hext' k i (hext k i hk), hsize⟩

end Freeze

end Polymatch.Arena
