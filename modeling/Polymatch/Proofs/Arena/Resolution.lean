import Polymatch.Proofs.Arena.Contents

/-! # Resolving nodes

An arena that is being resolved only gains unions of the nodes that it had at
first, each of them once, and the contents that are known say what their nodes do
in every arena that this one becomes. Working out a node keeps it that way and
answers such a content. A node never derives from itself, so none is reached again
while it is worked out.
-/

namespace Polymatch.Arena

open Relation (TransGen ReflTransGen)

variable {g₀ g g' h : Arena} {S T : Nat → Prop} {i j k : Nat} {n a b : Node} {added : Marks}

/-- The node says what the nodes of a set do, in every arena that this one becomes. -/
def Describes (g : Arena) (S : Nat → Prop) (n : Node) : Prop :=
  ∀ h : Arena, h.WellFormed → Settles g h → Holds h g.ambiguous S n

/-- The contents that are known say what their nodes do. Nothing is promised of those of markers: when an open one
is worked out and then closed, its content is not looked at any more. -/
def Informed (g : Arena) : Prop :=
  ∀ i n, g.content? i = some n → (∀ t, g.recipe i ≠ .marker t) → Describes g (· = i) n

/-- What an arena is that has been resolved from `g₀` on. -/
structure Grounded (g₀ g : Arena) : Prop where
  wellFormed : g.WellFormed
  grows : Grows g₀ g
  unions : ∀ i, g₀.size ≤ i → i < g.size →
    ∃ members, g.recipe i = .union members ∧ ∀ m ∈ members, m < g₀.size ∧ g₀.Atomic m
  distinct : ∀ i j, g₀.size ≤ i → i < j → j < g.size → g.recipe i ≠ g.recipe j
  known : g.Informed

/-- What an arena without open markers is that has been resolved from `g₀` on. -/
structure Based (g₀ g : Arena) : Prop extends Grounded g₀ g where
  closed : ∀ i, g.recipe i ≠ .marker none

/-- Some resolving has turned `g` into `g'`. -/
structure Resolves (g₀ g g' : Arena) : Prop where
  grounded : Grounded g₀ g'
  grows : Grows g g'
  ambiguous : g.ambiguous = true → g'.ambiguous = true
  writes : Writes g g'

/-- Some resolving has answered a node that says what the nodes of a set do. -/
structure Resolved (g₀ g : Arena) (S : Nat → Prop) (result : Node × Arena) : Prop where
  resolves : Resolves g₀ g result.2
  within : result.1.Within result.2.size
  describes : Describes result.2 S result.1

theorem Holds.mono {ambiguous ambiguous' : Bool} (hn : Holds h ambiguous S n)
    (ha : ambiguous = true → ambiguous' = true) : Holds h ambiguous' S n :=
  ⟨hn.follows, hn.accepting, fun hf => hn.even (Bool.eq_false_iff.2 fun ht => by simp [ha ht] at hf)⟩

theorem Describes.mono (hd : Describes g S n) (hg : Grows g g')
    (ha : g.ambiguous = true → g'.ambiguous = true) : Describes g' S n := fun h hh hs =>
  (hd h hh (hg.trans_settles hs)).mono ha

theorem describes_built (hr : g.recipe i = .built) (hn : g.content? i = some n) : Describes g (· = i) n := by
  intro h hh hs
  have hlt := lt_size_of_content? (Option.ne_none_iff_exists'.2 ⟨n, hn⟩)
  refine holds_built hh ((hs.recipe_eq i hlt (by simp [hr])).trans hr) ?_
  rw [hs.content_eq i hr (by simp [hn]), hn]

theorem Blank.informed (hg : Blank g) : g.Informed := fun i n hn _ => by
  refine describes_built (by_contra fun hne => ?_) hn
  cases (hg i hne).symm.trans hn

/-- Resolving may start over at any time. -/
theorem Informed.grounded (hi : g.Informed) (hg : g.WellFormed) : Grounded g g where
  wellFormed := hg
  grows := .refl g
  unions _ hge hlt := absurd hlt (Nat.not_lt.2 hge)
  distinct _ _ hge hij hlt := absurd (Nat.lt_trans hij hlt) (Nat.not_lt.2 hge)
  known := hi

theorem Describes.of_covers (hd : Describes g S n)
    (hc : ∀ {h : Arena}, h.WellFormed → Settles g h → Covers h i S) : Describes g (· = i) n :=
  fun h hh hs => (hd h hh hs).of_covers (hc hh hs)

namespace Resolves

theorem refl (hb : Grounded g₀ g) : Resolves g₀ g g := ⟨hb, .refl g, id, .refl⟩

theorem trans {g'' : Arena} (h : Resolves g₀ g g') (h' : Resolves g₀ g' g'') : Resolves g₀ g g'' :=
  ⟨h'.grounded, h.grows.trans h'.grows, fun ha => h'.ambiguous (h.ambiguous ha), h.writes.trans h'.writes⟩

theorem describes (h : Resolves g₀ g g') (hd : Describes g S n) : Describes g' S n :=
  hd.mono h.grows h.ambiguous

/-- Resolving adds unions only, so it opens no marker. -/
theorem based (h : Resolves g₀ g g') (hb : Based g₀ g) : Based g₀ g' where
  toGrounded := h.grounded
  closed i := by
    rcases Nat.lt_or_ge i g.size with hlt | hge
    · rw [h.grows.recipe_eq i hlt]
      exact hb.closed i
    · intro hr
      obtain ⟨members, hu, -⟩ :=
        h.grounded.unions i (Nat.le_trans hb.grows.size_le hge) (lt_size_of_recipe (by simp [hr]))
      cases hr.symm.trans hu

end Resolves

theorem Resolved.after {result : Node × Arena} (h : Resolved g₀ g' S result) (hg : Resolves g₀ g g') :
    Resolved g₀ g S result :=
  ⟨hg.trans h.resolves, h.within, h.describes⟩

section Steps

/-- Ambiguity and loop bodies do not matter to the nodes. -/
theorem Grounded.of_slots (hb : Grounded g₀ g) (hs : g'.slots = g.slots)
    (ha : g.ambiguous = true → g'.ambiguous = true) : Resolves g₀ g g' where
  grounded := by
    have hsize : g'.size = g.size := congrArg Array.size hs
    have hrecipe : ∀ i, g'.recipe i = g.recipe i := fun i => by rw [recipe, hs, recipe]
    have hcontent : ∀ i, g'.content? i = g.content? i := fun i => by rw [content?, hs, content?]
    refine ⟨hb.wellFormed.of_slots hs, hb.grows.trans (grows_of_slots hs), ?_, ?_, ?_⟩
    · intro i hi hlt
      rw [hrecipe]
      exact hb.unions i hi (hsize ▸ hlt)
    · intro i j hi hij hj
      rw [hrecipe, hrecipe]
      exact hb.distinct i j hi hij (hsize ▸ hj)
    · intro i n hn hr
      rw [hcontent] at hn
      rw [hrecipe] at hr
      exact (hb.known i n hn hr).mono (grows_of_slots hs) ha
  grows := grows_of_slots hs
  ambiguous := ha
  writes := .single (.aside hs)

/-- A union of nodes that were there at first is found or added. -/
theorem Grounded.derive (hb : Grounded g₀ g) {members : IdSet} (hm : ∀ m ∈ members, m < g₀.size ∧ g₀.Atomic m) :
    Resolves g₀ g (g.derive (.union members)).2 := by
  have hfits : g.Fits { recipe := .union members, node? := none } := by
    refine fits_derived (by simp) (fun j hj => Nat.lt_of_lt_of_le (hm j hj).1 hb.grows.size_le) ?_
    intro members' h m hmem
    cases h
    exact hb.grows.atomic (hm m hmem).1 (hm m hmem).2
  have hg := hb.wellFormed.derive hfits
  rcases derive_cases g (.union members) with ⟨i, -, -, hd⟩ | ⟨hnew, hd⟩
  · rw [hd]
    exact .refl hb
  · rw [hd] at hg ⊢
    have hgrow := grows_push g { recipe := .union members, node? := none }
    refine ⟨⟨hg, hb.grows.trans hgrow, ?_, ?_, ?_⟩, hgrow, id, .single (.push hfits)⟩
    · intro i hi hlt
      rcases push_cases g _ hlt with ⟨hig, hr, -⟩ | ⟨-, hr, -⟩
      · rw [hr]
        exact hb.unions i hi hig
      · exact ⟨members, hr, hm⟩
    · intro i j hi hij hj
      rcases push_cases g _ hj with ⟨hjg, hr, -⟩ | ⟨rfl, hr, -⟩
      · rw [recipe_push_of_lt _ _ (Nat.lt_trans hij hjg), hr]
        exact hb.distinct i j hi hij hjg
      · rw [recipe_push_of_lt _ _ hij, hr]
        exact hnew i hij
    · intro i n hn hmarker
      rcases push_cases g _ (lt_size_of_content? (Option.ne_none_iff_exists'.2 ⟨n, hn⟩)) with ⟨-, hr, hc⟩ | ⟨-, -, hc⟩
      · rw [hr] at hmarker
        exact (hb.known i n (hc.symm.trans hn) hmarker).mono hgrow id
      · cases hc.symm.trans hn

/-- The members of a node were there at first. -/
theorem Grounded.membersWithin_lt (hb : Grounded g₀ g) (h₀ : g₀.WellFormed) {fuel : Nat} (hi : i < g.size)
    (hj : j ∈ g.membersWithin fuel i) : j < g₀.size := by
  induction fuel generalizing i with
  | zero => exact (SortedSet.not_mem_empty _ hj).elim
  | succ fuel ih =>
    rw [membersWithin] at hj
    have hc := canonical_lt hb.wellFormed hi
    generalize g.canonical i = c at hc hj
    have hold : ∀ {members}, g.recipe c = .union members → ∀ m ∈ members, m < g₀.size := by
      intro members hr m hm
      rcases Nat.lt_or_ge c g₀.size with hlt | hge
      · rw [hb.grows.recipe_eq c hlt] at hr
        exact h₀.operand_lt c m (operand_member hr hm)
      · obtain ⟨members', hr', hlt⟩ := hb.unions c hge hc
        obtain rfl : members = members' := by simpa using hr.symm.trans hr'
        exact (hlt m hm).1
    split at hj
    · exact (SortedSet.not_mem_empty _ hj).elim
    · split at hj
      · rename_i members hr
        split at hj
        · simp only [mem_foldl_union, SortedSet.not_mem_empty, false_or] at hj
          obtain ⟨m, hm, hj⟩ := hj
          exact ih (Nat.lt_of_lt_of_le (hold hr m hm) hb.grows.size_le) hj
        · exact hold hr j hj
      · rename_i hne
        obtain rfl := SortedSet.mem_singleton.1 hj
        refine Nat.lt_of_not_le fun hge => ?_
        obtain ⟨members, hr, -⟩ := hb.unions j hge hc
        exact hne members hr

theorem Grounded.mem_members (hb : Grounded g₀ g) (h₀ : g₀.WellFormed) (hi : i < g.size) (hj : j ∈ g.members i) :
    j < g₀.size ∧ g₀.Atomic j := by
  have hlt := hb.membersWithin_lt h₀ hi hj
  refine ⟨hlt, fun members => ?_⟩
  rw [← hb.grows.recipe_eq j hlt]
  exact members_atomic hb.wellFormed hj members

theorem Grounded.union (hb : Grounded g₀ g) (h₀ : g₀.WellFormed) (hi : i < g.size) (hj : j < g.size) :
    Resolves g₀ g (g.union i j).2 := by
  have hci := canonical_lt hb.wellFormed hi
  have hcj := canonical_lt hb.wellFormed hj
  simp only [Arena.union]
  split
  · exact .refl hb
  split
  · exact .refl hb
  split
  · exact .refl hb
  split
  · exact .refl hb
  · rw [unionOf]
    split
    · exact .refl hb
    · exact .refl hb
    · refine hb.derive fun m hm => ?_
      rcases SortedSet.mem_union.1 hm with hm | hm
      · exact hb.mem_members h₀ hci hm
      · exact hb.mem_members h₀ hcj hm

theorem WellFormed.setNode (hg : g.WellFormed) (hk : g.recipe k ≠ .built) (hn : n.Within g.size) :
    (g.setNode k n).WellFormed := by
  have hlt := lt_size_of_recipe hk
  have hne : ∀ {i}, g.recipe i = .built → i ≠ k := by
    rintro i hi rfl
    exact hk hi
  have hop : (g.setNode k n).Operand = g.Operand := by
    funext i j
    rw [Operand, recipe_setNode, Operand]
  refine ⟨?_, ?_, ?_, ?_, ?_, ?_, ?_, ?_, ?_, ?_⟩
  · rw [size_setNode]
    exact hg.two_le
  · rw [recipe_setNode, hg.recipe_nothing]
  · rw [content?_setNode_of_ne _ _ _ (hne hg.recipe_nothing), hg.content_nothing]
  · rw [recipe_setNode, hg.recipe_terminal]
  · rw [content?_setNode_of_ne _ _ _ (hne hg.recipe_terminal), hg.content_terminal]
  · rw [hop, size_setNode]
    exact hg.operand_lt
  · intro i members hr m hm members'
    rw [recipe_setNode] at hr ⊢
    exact hg.flat i members hr m hm members'
  · rw [hop]
    exact hg.acyclic
  · intro i m hm
    rw [size_setNode]
    by_cases hik : i = k
    · subst hik
      rw [content?_setNode_self _ _ _ hlt] at hm
      rwa [← Option.some.inj hm]
    · rw [content?_setNode_of_ne _ _ _ hik] at hm
      exact hg.content i m hm
  · intro i hi hr
    rw [size_setNode] at hi
    rw [recipe_setNode] at hr
    rw [content?_setNode_of_ne _ _ _ (hne hr)]
    exact hg.built i hi hr

theorem Grounded.setNode (hb : Grounded g₀ g) (hk : g.recipe k ≠ .built) (hn : n.Within g.size)
    (hd : (∀ t, g.recipe k ≠ .marker t) → Describes g (· = k) n) : Resolves g₀ g (g.setNode k n) := by
  have hgrow := grows_setNode g k n hk
  refine ⟨⟨hb.wellFormed.setNode hk hn, hb.grows.trans hgrow, ?_, ?_, ?_⟩,
    hgrow, id, .single (.note hk hn)⟩
  · intro i hi hlt
    rw [size_setNode] at hlt
    rw [recipe_setNode]
    exact hb.unions i hi hlt
  · intro i j hi hij hj
    rw [size_setNode] at hj
    rw [recipe_setNode, recipe_setNode]
    exact hb.distinct i j hi hij hj
  · intro i m hm hr
    simp only [recipe_setNode] at hr
    by_cases hik : i = k
    · subst hik
      rw [content?_setNode_self _ _ _ (lt_size_of_recipe hk)] at hm
      rw [← Option.some.inj hm]
      exact (hd hr).mono hgrow id
    · rw [content?_setNode_of_ne _ _ _ hik] at hm
      exact (hb.known i m hm hr).mono hgrow id

end Steps

end Polymatch.Arena
