import Polymatch.Proofs.Arena.Unions

/-! # Leaves

What a node does before anything is consumed is up to its leaves, the nodes built outright and the
open markers that it derives from. Every operation of the arena is told by what it does to leaves,
whether loops are open or closed, and whatever is stored in the nodes.
-/

namespace Polymatch.Arena

open Relation (TransGen ReflTransGen)

variable {g g' g'' : Arena} {blocked : Nat → Prop} {i j l a b : Nat} {members : IdSet} {marks : Marks} {r : Recipe}

section Reaches

theorem IsLeaf.not_operand (hl : g.IsLeaf i) : ¬ g.Operand i j := by
  rw [Operand]
  rcases hl with ⟨hr, -⟩ | hr
  · simp [hr]
  · simp [hr]

/-- A node leads to itself if it is a leaf, and where the nodes lead that it derives from. -/
theorem reaches_iff : Reaches g blocked i l ↔
    ¬ blocked i ∧ (l = i ∧ g.IsLeaf i ∨ ∃ j, g.Operand i j ∧ Reaches g blocked j l) := by
  constructor
  · rintro ⟨marks, hp⟩
    cases hp with
    | leaf hb hl => exact ⟨hb, .inl ⟨rfl, hl⟩⟩
    | member hb hr hm hp => exact ⟨hb, .inr ⟨_, operand_member hr hm, _, hp⟩⟩
    | inner hb hr hp => exact ⟨hb, .inr ⟨_, operand_inner hr, _, hp⟩⟩
    | winner hb hr hp => exact ⟨hb, .inr ⟨_, operand_winner hr, _, hp⟩⟩
    | loser hb hr _ hp => exact ⟨hb, .inr ⟨_, operand_loser hr, _, hp⟩⟩
    | entry hb hr hp => exact ⟨hb, .inr ⟨_, operand_entry hr, _, hp⟩⟩
  · rintro ⟨hb, ⟨rfl, hl⟩ | ⟨j, hop, h⟩⟩
    · exact ⟨∅, .leaf hb hl⟩
    · exact h.of_operand hb hop

theorem reaches_of_isLeaf (hl : g.IsLeaf i) : Reaches g blocked i l ↔ ¬ blocked i ∧ l = i := by
  rw [reaches_iff, or_iff_left fun ⟨_, hop, _⟩ => hl.not_operand hop, and_iff_left hl]

theorem reaches_derived (hb : g.recipe i ≠ .built) (hm : g.recipe i ≠ .marker none) :
    Reaches g blocked i l ↔ ¬ blocked i ∧ ∃ j, g.Operand i j ∧ Reaches g blocked j l := by
  rw [reaches_iff, or_iff_right fun h => h.2.elim (fun h => hb h.1) hm]

theorem Reaches.isLeaf (h : Reaches g blocked i l) : g.IsLeaf l := by
  obtain ⟨marks, hp⟩ := h
  exact hp.isLeaf

/-- The leaves of a node depend on the recipes that it derives by alone. -/
theorem Tidy.reaches_iff (hg : g.Tidy) (hsame : ∀ i < g.size, g'.recipe i = g.recipe i) (hi : i < g.size) :
    Reaches g' blocked i l ↔ Reaches g blocked i l := by
  constructor
  · rintro ⟨marks, hp⟩
    refine ⟨marks, hp.transfer (fun i hi => (hsame i hi).symm) (fun i j hi hop => ?_) (fun _ _ => id) hi⟩
    rw [Operand, hsame i hi] at hop
    exact hg.operand_lt i j hop
  · rintro ⟨marks, hp⟩
    exact ⟨marks, hp.transfer hsame (fun i j _ => hg.operand_lt i j) (fun _ _ => id) hi⟩

end Reaches

/-- The node `i` leads to the leaf `l`. -/
abbrev Leaf (g : Arena) (i l : Nat) : Prop := Reaches g (fun _ => False) i l

section Leaf

theorem leaf_derived (hb : g.recipe i ≠ .built) (hm : g.recipe i ≠ .marker none) :
    g.Leaf i l ↔ ∃ j, g.Operand i j ∧ g.Leaf j l :=
  (reaches_derived hb hm).trans (and_iff_right id)

theorem leaf_self (hl : g.IsLeaf i) : g.Leaf i l ↔ l = i :=
  (reaches_of_isLeaf hl).trans (and_iff_right id)

theorem Tidy.not_leaf_nothing (hg : g.Tidy) : ¬ g.Leaf nothing l := by
  rintro ⟨marks, hp⟩
  exact ((path_built hg.recipe_nothing).1 hp).2.1 rfl

theorem leaf_entry (hr : g.recipe i = .marker (some j)) : g.Leaf i l ↔ g.Leaf j l := by
  rw [leaf_derived (by simp [hr]) (by simp [hr])]
  simp [Operand, hr]

theorem leaf_canonical (hf : g.Founded) (i : Nat) : g.Leaf (g.canonical i) l ↔ g.Leaf i l := by
  induction i using canonical_induct hf with
  | entry i e hr ih => rw [canonical_entry hf hr, ih, leaf_entry hr]
  | other i hm => rw [canonical_of_ne hm]

/-- A node leads where the nodes lead that it flattens to. -/
theorem leaf_iff_flattens (hg : g.Tidy) (hf : g.Founded) (i : Nat) :
    g.Leaf i l ↔ ∃ j, g.Flattens i j ∧ g.Leaf j l := by
  induction i using hf.induct with
  | step i ih =>
    by_cases hunion : ∃ members, g.recipe i = .union members
    · obtain ⟨members, hr⟩ := hunion
      have hmembers : g.Leaf i l ↔ ∃ m ∈ members, g.Leaf m l := by
        rw [leaf_derived (by simp [hr]) (by simp [hr])]
        simp [Operand, hr]
      have hih : ∀ m ∈ members, (g.Leaf m l ↔ ∃ j, g.Flattens m j ∧ g.Leaf j l) := fun m hm =>
        ih m (operand_member hr hm)
      rw [hmembers, exists_congr fun m => and_congr_right (hih m)]
      simp only [flattens_union hr]
      constructor
      · rintro ⟨m, hm, j, hj, hl⟩
        exact ⟨j, ⟨m, hm, hj⟩, hl⟩
      · rintro ⟨j, ⟨m, hm, hj⟩, hl⟩
        exact ⟨m, hm, j, hj, hl⟩
    by_cases hclosed : ∃ e, g.recipe i = .marker (some e)
    · obtain ⟨e, hr⟩ := hclosed
      simp only [leaf_entry hr, flattens_entry hr]
      exact ih e (operand_entry hr)
    · simp only [flattens_atom (not_exists.1 hunion) (not_exists.1 hclosed)]
      constructor
      · rintro hl
        refine ⟨i, ⟨rfl, ?_⟩, hl⟩
        rintro rfl
        exact hg.not_leaf_nothing hl
      · rintro ⟨j, ⟨rfl, -⟩, hl⟩
        exact hl

/-- A leaf flattens to itself. -/
theorem flattens_of_isLeaf (hg : g.Tidy) (hl : g.IsLeaf i) : g.Flattens i j ↔ j = i := by
  have hn : i ≠ nothing := by
    rintro rfl
    simp [IsLeaf, hg.recipe_nothing] at hl
  rw [flattens_atom, and_iff_left hn]
  · exact fun members hr => by simp [IsLeaf, hr] at hl
  · exact fun e hr => by simp [IsLeaf, hr] at hl

theorem Flattens.lt (hg : g.Tidy) (h : g.Flattens i j) (hi : i < g.size) : j < g.size := by
  induction h with
  | atom => exact hi
  | member hr hm _ ih => exact ih (hg.operand_lt _ _ (operand_member hr hm))
  | entry hr _ ih => exact ih (hg.operand_lt _ _ (operand_entry hr))

end Leaf

/-- `g'` has come out of `g` by deriving nodes. It is tidy, and no node derives from itself. -/
structure Enlarges (g g' : Arena) : Prop where
  tidy : g'.Tidy
  founded : g'.Founded
  grows : Grows g g'
  discloses : Discloses g g'

/-- An operation has extended the arena, and its answer has the given leaves. -/
structure Leading (g : Arena) (result : Nat × Arena) (leaves : Nat → Prop) : Prop extends
    Enlarges g result.2 where
  lt : result.1 < result.2.size
  leaf_iff : ∀ l, result.2.Leaf result.1 l ↔ leaves l

theorem Enlarges.refl (hg : g.Tidy) (hf : g.Founded) : Enlarges g g := ⟨hg, hf, .refl g, fun _ _ => id⟩

theorem Enlarges.trans (h : Enlarges g g') (h' : Enlarges g' g'') : Enlarges g g'' where
  tidy := h'.tidy
  founded := h'.founded
  grows := h.grows.trans h'.grows
  discloses i n hn := h.discloses i n (h'.discloses i n hn)

theorem Enlarges.leaf_iff (h : Enlarges g g') (hg : g.Tidy) (hi : i < g.size) : g'.Leaf i l ↔ g.Leaf i l :=
  hg.reaches_iff h.grows.recipe_eq hi

namespace Leading

variable {result : Nat × Arena} {leaves leaves' : Nat → Prop}

theorem self (hg : g.Tidy) (hf : g.Founded) (hi : i < g.size) : Leading g (i, g) (g.Leaf i) :=
  ⟨.refl hg hf, hi, fun _ => Iff.rfl⟩

theorem after (h : Leading g' result leaves) (hext : Enlarges g g') : Leading g result leaves :=
  ⟨hext.trans h.toEnlarges, h.lt, h.leaf_iff⟩

theorem congr (h : Leading g result leaves) (hsame : ∀ l, leaves l ↔ leaves' l) : Leading g result leaves' :=
  ⟨h.toEnlarges, h.lt, fun l => (h.leaf_iff l).trans (hsame l)⟩

end Leading

section Operations

theorem Founded.derive (hf : g.Founded) (hr : ∀ j, r.Names j → j < g.size) : (g.derive r).2.Founded := by
  rcases derive_cases g r with ⟨i, -, -, h⟩ | ⟨-, h⟩
  · rwa [h]
  · rw [h]
    exact hf.push hr

theorem leading_derive (hg : g.Tidy) (hf : g.Founded) (hr : g.Suits r) (hb : r ≠ .built) (hm : r ≠ .marker none) :
    Leading g (g.derive r) fun l => ∃ j, r.Names j ∧ g.Leaf j l := by
  have hext : Enlarges g (g.derive r).2 :=
    ⟨hg.derive hr hb, hf.derive hr.lt, grows_derive g r, discloses_derive g r⟩
  refine ⟨hext, derive_lt g r, fun l => ?_⟩
  have hrecipe := recipe_derive g r
  rw [leaf_derived (hrecipe.trans_ne hb) (hrecipe.trans_ne hm)]
  simp only [Operand, hrecipe]
  exact exists_congr fun j => and_congr_right fun hj => hext.leaf_iff hg (hr.lt j hj)

theorem leading_union (hg : g.Tidy) (hf : g.Founded) (ha : a < g.size) (hb : b < g.size) :
    Leading g (g.union a b) fun l => g.Leaf a l ∨ g.Leaf b l := by
  have hkept := kept_union hg ha hb
  have hext : Enlarges g (g.union a b).2 :=
    ⟨hkept.tidy, hf.union hg ha hb, hkept.grows.toGrows, discloses_union g a b⟩
  refine ⟨hext, hkept.lt, fun l => ?_⟩
  have hold : ∀ j, g.Flattens a j ∨ g.Flattens b j → ((g.union a b).2.Leaf j l ↔ g.Leaf j l) := fun j hj =>
    hext.leaf_iff hg (hj.elim (·.lt hg ha) (·.lt hg hb))
  rw [leaf_iff_flattens hkept.tidy hext.founded, leaf_iff_flattens hg hf a, leaf_iff_flattens hg hf b, ← exists_or]
  simp only [flattens_union_iff hg hf ha hb, ← or_and_right]
  exact exists_congr fun j => and_congr_right (hold j)

theorem leading_unionAll_from (hg : g.Tidy) (hf : g.Founded) {nodes : List Nat} (ha : a < g.size)
    (hn : ∀ i ∈ nodes, i < g.size) : Leading g (nodes.foldl (fun r i => r.2.union r.1 i) (a, g))
      fun l => g.Leaf a l ∨ ∃ i ∈ nodes, g.Leaf i l := by
  induction nodes generalizing a g with
  | nil => exact (Leading.self hg hf ha).congr fun l => by simp
  | cons i nodes ih =>
    obtain ⟨hi, hn⟩ := List.forall_mem_cons.1 hn
    have hunion := leading_union hg hf ha hi
    have hrest := ih hunion.tidy hunion.founded hunion.lt fun j hj => Nat.lt_of_lt_of_le (hn j hj) hunion.grows.size_le
    refine (hrest.after hunion.toEnlarges).congr fun l => ?_
    have hold : ∀ j ∈ nodes, ((g.union a i).2.Leaf j l ↔ g.Leaf j l) := fun j hj =>
      hunion.toEnlarges.leaf_iff hg (hn j hj)
    rw [hunion.leaf_iff, exists_congr fun j => and_congr_right (hold j)]
    simp only [List.mem_cons, exists_eq_or_imp, or_assoc]

theorem leading_unionAll (hg : g.Tidy) (hf : g.Founded) {nodes : List Nat} (hn : ∀ i ∈ nodes, i < g.size) :
    Leading g (g.unionAll nodes) fun l => ∃ i ∈ nodes, g.Leaf i l :=
  (leading_unionAll_from hg hf hg.nothing_lt hn).congr fun _ => or_iff_right hg.not_leaf_nothing

theorem leading_annotateWithin {fuel : Nat} (hg : g.Tidy) (hf : g.Founded) (hi : i < g.size) :
    Leading g (annotateWithin fuel g i marks) (g.Leaf i) := by
  induction fuel generalizing i marks with
  | zero => exact .self hg hf hi
  | succ fuel ih =>
    have hc := hg.canonical_lt hi
    refine Leading.congr ?_ fun l => leaf_canonical hf i
    simp only [annotateWithin]
    generalize g.canonical i = c at hc
    split
    · exact .self hg hf hc
    · split
      · rename_i deeper existing hr
        refine (ih (hg.operand_lt c deeper (operand_inner hr))).congr fun l => ?_
        rw [leaf_derived (i := c) (by simp [hr]) (by simp [hr])]
        simp [Operand, hr]
      · have hsuits : g.Suits (.annotate c marks) := ⟨by simpa using hc, by simp, by simp⟩
        exact (leading_derive hg hf hsuits (by simp) (by simp)).congr fun l => by simp

/-- Marks do not change leaves. -/
theorem leading_annotate (hg : g.Tidy) (hf : g.Founded) (hi : i < g.size) (marks : Marks) :
    Leading g (g.annotate i marks) (g.Leaf i) := leading_annotateWithin hg hf hi

/-- A preference has the leaves of both sides. -/
theorem leading_prefer (hg : g.Tidy) (hf : g.Founded) (ha : a < g.size) (hb : b < g.size) :
    Leading g (g.prefer a b) fun l => g.Leaf a l ∨ g.Leaf b l := by
  have hca := hg.canonical_lt ha
  have hcb := hg.canonical_lt hb
  refine Leading.congr ?_ fun l => or_congr (leaf_canonical hf a) (leaf_canonical hf b)
  simp only [prefer]
  generalize g.canonical a = a at hca
  generalize g.canonical b = b at hcb
  split
  · rename_i h
    rw [Bool.or_eq_true, decide_eq_true_eq, decide_eq_true_eq] at h
    refine (Leading.self hg hf hca).congr fun l => (or_iff_left_of_imp ?_).symm
    rcases h with rfl | rfl
    · exact id
    · exact fun h => absurd h hg.not_leaf_nothing
  split
  · rename_i h
    subst h
    exact (Leading.self hg hf hcb).congr fun l => (or_iff_right hg.not_leaf_nothing).symm
  · have hsuits : g.Suits (.prefer a b) := ⟨fun j hj => hj.elim (· ▸ hca) (· ▸ hcb), by simp, by simp⟩
    exact (leading_derive hg hf hsuits (by simp) (by simp)).congr fun l => by simp

end Operations

section Subtract

variable {removed : IdSet} {busy : Nat → Prop} {bound : Nat} {visit : Nat → Subtraction → Nat × Subtraction}
  {s s' : Subtraction}

/-- The leaves of `i` that are reached around the removed nodes. -/
abbrev Spared (g : Arena) (removed : IdSet) (i l : Nat) : Prop := Reaches g (· ∈ removed) i l

theorem Spared.leaf (h : Spared g removed i l) : g.Leaf i l ∧ l ∉ removed := by
  obtain ⟨marks, hp⟩ := h
  exact ⟨reaches_of_operands (Reaches.isLeaf ⟨marks, hp⟩) hp.derives, hp.not_blocked⟩

theorem spared_derived (hnot : i ∉ removed) (hb : g.recipe i ≠ .built) (hm : g.recipe i ≠ .marker none) :
    g.Spared removed i l ↔ ∃ j, g.Operand i j ∧ g.Spared removed j l :=
  (reaches_derived hb hm).trans (and_iff_right hnot)

theorem leaf_iff_spared (hnot : i ∉ removed) (h : ∀ j, g.Operand i j → (g.Leaf j l ↔ g.Spared removed j l)) :
    g.Leaf i l ↔ g.Spared removed i l := by
  refine (reaches_iff.trans ?_).trans reaches_iff.symm
  rw [and_iff_right id, and_iff_right hnot]
  exact or_congr_right (exists_congr fun j => and_congr_right (h j))

/-- Where a subtraction stands: the arena has been extended, and what is remembered has the leaves that it should,
unless it is still being dealt with. -/
structure Removing (g : Arena) (removed : IdSet) (busy : Nat → Prop) (s : Subtraction) : Prop extends
    Enlarges g s.arena where
  done : ∀ i r, s.done.lookup i = some r →
    busy i ∨ r < s.arena.size ∧ ∀ l, s.arena.Leaf r l ↔ Spared g removed i l

/-- A subtraction has gone on and answered what is left of `i`. -/
structure Spares (g : Arena) (removed : IdSet) (busy : Nat → Prop) (s : Subtraction) (i : Nat)
    (result : Nat × Subtraction) : Prop where
  removing : Removing g removed busy result.2
  leading : Leading s.arena (result.1, result.2.arena) (Spared g removed i)

/-- Nodes of small rank are dealt with rightly. -/
def SparesBelow (g : Arena) (removed : IdSet) (bound : Nat)
    (visit : Nat → Subtraction → Nat × Subtraction) : Prop :=
  ∀ (i : Nat) (s : Subtraction) (busy : Nat → Prop), g.rank i < bound → i < g.size →
    Removing g removed busy s → (∀ b, busy b → TransGen g.Operand b i) →
    Spares g removed busy s i (visit i s)

theorem Removing.start (hg : g.Tidy) (hf : g.Founded) : Removing g removed (fun _ => False) ⟨[], g⟩ :=
  ⟨.refl hg hf, fun _ _ h => nomatch h⟩

/-- While its operands are dealt with, a node is busy. -/
theorem Removing.enter (h : Removing g removed busy s) (i : Nat) :
    Removing g removed (fun b => b = i ∨ busy b) { s with done := (i, i) :: s.done } := by
  refine ⟨h.toEnlarges, fun j r hjr => ?_⟩
  by_cases hj : j = i
  · exact .inl (.inl hj)
  · rw [lookup_cons_of_ne i _ hj] at hjr
    exact (h.done j r hjr).imp_left .inr

theorem Removing.extend (h : Removing g removed busy s) (hext : Enlarges s.arena g') :
    Removing g removed busy { s with arena := g' } where
  toEnlarges := h.toEnlarges.trans hext
  done i r hir := (h.done i r hir).imp_right fun ⟨hr, hl⟩ =>
    ⟨Nat.lt_of_lt_of_le hr hext.grows.size_le, fun l => (hext.leaf_iff h.tidy hr).trans (hl l)⟩

/-- The answer is a node of the arena that was reached. -/
theorem Spares.answer {result : Nat × Arena} (h : Removing g removed busy s') (hext : Enlarges s.arena s'.arena)
    (hr : Leading s'.arena result (Spared g removed i)) :
    Spares g removed busy s i (result.1, { s' with arena := result.2 }) :=
  ⟨h.extend hr.toEnlarges, hr.after hext⟩

theorem spares_subtractEach (hvisit : SparesBelow g removed bound visit) (nodes : List Nat)
    (h : Removing g removed busy s)
    (hn : ∀ m ∈ nodes, g.rank m < bound ∧ m < g.size ∧ ∀ b, busy b → TransGen g.Operand b m) :
    Removing g removed busy (subtractEach visit nodes s).2 ∧
      Enlarges s.arena (subtractEach visit nodes s).2.arena ∧
      List.Forall₂ (fun m k => k < (subtractEach visit nodes s).2.arena.size ∧
        ∀ l, (subtractEach visit nodes s).2.arena.Leaf k l ↔ Spared g removed m l)
        nodes (subtractEach visit nodes s).1 := by
  induction nodes generalizing s with
  | nil => exact ⟨h, .refl h.tidy h.founded, .nil⟩
  | cons m nodes ih =>
    obtain ⟨⟨hrank, hlt, hbusy⟩, hn⟩ := List.forall_mem_cons.1 hn
    have hfirst := hvisit m s busy hrank hlt h hbusy
    obtain ⟨hrest, hext, hall⟩ := ih hfirst.removing hn
    refine ⟨hrest, hfirst.leading.toEnlarges.trans hext, .cons ⟨?_, fun l => ?_⟩ hall⟩
    · exact Nat.lt_of_lt_of_le hfirst.leading.lt hext.grows.size_le
    · exact (hext.leaf_iff hfirst.leading.tidy hfirst.leading.lt).trans (hfirst.leading.leaf_iff l)

/-- What is left of several nodes together. -/
theorem exists_spared {ms ks : List Nat} {P : Nat → Prop}
    (h : List.Forall₂ (fun m k => k < i ∧ ∀ l, g'.Leaf k l ↔ Reaches g P m l) ms ks) :
    (∃ k ∈ ks, g'.Leaf k l) ↔ ∃ m ∈ ms, Reaches g P m l := by
  induction h with
  | nil => simp
  | cons hmk _ ih => simp only [List.mem_cons, exists_eq_or_imp, hmk.2 l, ih]

theorem lt_of_spared {ms ks : List Nat} {P : Nat → Nat → Prop}
    (h : List.Forall₂ (fun m k => k < i ∧ P m k) ms ks) : ∀ k ∈ ks, k < i := by
  induction h with
  | nil => exact List.forall_mem_nil _
  | cons hmk _ ih => exact List.forall_mem_cons.2 ⟨hmk.1, ih⟩

theorem spares_subtractFrom (hvisit : SparesBelow g removed bound visit) (hg : g.Tidy) (hf : g.Founded)
    (h : Removing g removed busy s) (hrank : g.rank i ≤ bound) (hi : i < g.size)
    (hbusy : ∀ b, busy b → b = i ∨ TransGen g.Operand b i) (hnot : i ∉ removed) :
    Spares g removed busy s i (subtractFrom visit i s) := by
  have hready : ∀ j, g.Operand i j → g.rank j < bound ∧ j < g.size ∧ ∀ b, busy b → TransGen g.Operand b j :=
    fun _ => hf.operand_ready hrank hbusy
  -- the node itself has the leaves it should, if its operands are as they were
  have hself : ∀ {s' : Subtraction}, Enlarges g s'.arena →
      (∀ j, g.Operand i j → ∀ l, s'.arena.Leaf j l ↔ Spared g removed j l) →
        Leading s'.arena (i, s'.arena) (Spared g removed i) := by
    intro s' hext hsame
    refine (Leading.self hext.tidy hext.founded (Nat.lt_of_lt_of_le hi hext.grows.size_le)).congr fun l => ?_
    refine (hext.leaf_iff hg hi).trans (leaf_iff_spared hnot fun j hj => ?_)
    exact (hext.leaf_iff hg (hg.operand_lt i j hj)).symm.trans (hsame j hj l)
  have hrecipe := h.grows.recipe_eq i hi
  rw [subtractFrom, hrecipe]
  cases hr : g.recipe i with
  | built => exact .answer h (.refl h.tidy h.founded) (hself h.toEnlarges fun j hj => by simp [Operand, hr] at hj)
  | marker target? =>
    cases target? with
    | none => exact .answer h (.refl h.tidy h.founded) (hself h.toEnlarges fun j hj => by simp [Operand, hr] at hj)
    | some entry =>
      obtain ⟨hrank', hlt, hbusy'⟩ := hready entry (operand_entry hr)
      have hsub := hvisit entry s busy hrank' hlt h hbusy'
      have hlead : Leading s.arena ((visit entry s).1, (visit entry s).2.arena) (Spared g removed i) := by
        refine hsub.leading.congr fun l => ?_
        rw [spared_derived hnot (by simp [hr]) (by simp [hr])]
        simp [Operand, hr]
      dsimp only
      split
      · rename_i heq
        refine .answer hsub.removing hsub.leading.toEnlarges (hself hsub.removing.toEnlarges fun j hj => ?_)
        obtain rfl : entry = j := by simpa [Operand, hr] using hj
        simpa only [heq] using hsub.leading.leaf_iff
      · exact ⟨hsub.removing, hlead⟩
  | union members =>
    obtain ⟨hrest, hext, hall⟩ := spares_subtractEach hvisit members.toList h fun m hm =>
      hready m (operand_member hr hm)
    dsimp only
    split
    · rename_i heq
      refine .answer hrest hext (hself hrest.toEnlarges fun j hj => ?_)
      rw [Operand, hr] at hj
      rw [heq, List.forall₂_same] at hall
      exact (hall j hj).2
    · refine .answer hrest hext ((leading_unionAll hrest.tidy hrest.founded (lt_of_spared hall)).congr fun l => ?_)
      rw [exists_spared hall, spared_derived hnot (by simp [hr]) (by simp [hr])]
      simp only [Operand, hr]
      exact Iff.rfl
  | annotate inner added =>
    have hinner := operand_inner hr
    obtain ⟨hrank', hlt, hbusy'⟩ := hready inner hinner
    have hsub := hvisit inner s busy hrank' hlt h hbusy'
    dsimp only
    split
    · rename_i heq
      refine .answer hsub.removing hsub.leading.toEnlarges (hself hsub.removing.toEnlarges fun j hj => ?_)
      obtain rfl : j = inner := by simpa [Operand, hr] using hj
      simpa only [heq] using hsub.leading.leaf_iff
    · have hann := leading_annotate hsub.removing.tidy hsub.removing.founded hsub.leading.lt added
      refine .answer hsub.removing hsub.leading.toEnlarges (hann.congr fun l => ?_)
      rw [spared_derived hnot (by simp [hr]) (by simp [hr]), hsub.leading.leaf_iff]
      simp [Operand, hr]
  | prefer winner loser =>
    obtain ⟨hrank₁, hlt₁, hbusy₁⟩ := hready winner (operand_winner hr)
    obtain ⟨hrank₂, hlt₂, hbusy₂⟩ := hready loser (operand_loser hr)
    have hsub₁ := hvisit winner s busy hrank₁ hlt₁ h hbusy₁
    have hsub₂ := hvisit loser (visit winner s).2 busy hrank₂ hlt₂ hsub₁.removing hbusy₂
    have hwlt := Nat.lt_of_lt_of_le hsub₁.leading.lt hsub₂.leading.grows.size_le
    have hw : ∀ l, (visit loser (visit winner s).2).2.arena.Leaf (visit winner s).1 l ↔ Spared g removed winner l :=
      fun l => (hsub₂.leading.toEnlarges.leaf_iff hsub₁.leading.tidy hsub₁.leading.lt).trans (hsub₁.leading.leaf_iff l)
    have hext := hsub₁.leading.toEnlarges.trans hsub₂.leading.toEnlarges
    dsimp only
    split
    · rename_i heq
      rw [Bool.and_eq_true, decide_eq_true_eq, decide_eq_true_eq] at heq
      refine .answer hsub₂.removing hext (hself hsub₂.removing.toEnlarges fun j hj => ?_)
      rw [Operand, hr] at hj
      rcases hj with rfl | rfl
      · simpa only [heq.1] using hw
      · simpa only [heq.2] using hsub₂.leading.leaf_iff
    · have hpref := leading_prefer hsub₂.removing.tidy hsub₂.removing.founded hwlt hsub₂.leading.lt
      refine .answer hsub₂.removing hext (hpref.congr fun l => ?_)
      rw [spared_derived hnot (by simp [hr]) (by simp [hr]), hw, hsub₂.leading.leaf_iff]
      simp [Operand, hr]

theorem sparesBelow_subtractWithin (hg : g.Tidy) (hf : g.Founded) (fuel : Nat) :
    SparesBelow g removed fuel (subtractWithin removed fuel) := by
  induction fuel with
  | zero => exact fun i s busy hrank => absurd hrank (Nat.not_lt_zero _)
  | succ fuel ih =>
    intro i s busy hrank hi h hbusy
    rw [subtractWithin]
    split
    · rename_i hin
      rw [SortedSet.contains_iff] at hin
      refine ⟨h, (Leading.self h.tidy h.founded h.tidy.nothing_lt).congr fun l => ?_⟩
      exact iff_of_false h.tidy.not_leaf_nothing fun hl => (reaches_iff.1 hl).1 hin
    · rename_i hin
      rw [SortedSet.contains_iff] at hin
      split
      · rename_i r hlookup
        rcases h.done i r hlookup with hb | ⟨hr, hl⟩
        · exact absurd (hbusy i hb) (hf.acyclic i)
        · exact ⟨h, (Leading.self h.tidy h.founded hr).congr hl⟩
      · have hfrom := spares_subtractFrom ih hg hf (h.enter i) (Nat.le_of_lt_succ hrank) hi
          (fun b hb => hb.imp_right (hbusy b)) hin
        refine ⟨⟨hfrom.removing.toEnlarges, fun j r hjr => ?_⟩, hfrom.leading⟩
        by_cases hj : j = i
        · subst hj
          rw [lookup_cons_self] at hjr
          obtain rfl := Option.some.inj hjr
          exact .inr ⟨hfrom.leading.lt, hfrom.leading.leaf_iff⟩
        · rw [lookup_cons_of_ne _ _ hj] at hjr
          rcases hfrom.removing.done j r hjr with (hji | hb) | hl
          · exact absurd hji hj
          · exact .inl hb
          · exact .inr hl

/-- A subtraction leaves the leaves that are reached around the members of what is subtracted. -/
theorem leading_subtract (hg : g.Tidy) (hf : g.Founded) (hi : i < g.size) (r : Nat) :
    Leading g (g.subtract i r) (Spared g (g.members r) i) :=
  (sparesBelow_subtractWithin hg hf (g.size + 1) i ⟨[], g⟩ _ (Nat.lt_succ_of_lt (hf.rank_lt_size i)) hi
    (.start hg hf) fun _ hb => hb.elim).leading

/-- No removed node is met on the way down from `i`. -/
def Clear (g : Arena) (removed : IdSet) (i : Nat) : Prop := ∀ j ∈ removed, ¬ ReflTransGen g.Operand i j

theorem Clear.operand (h : Clear g removed i) (hop : g.Operand i j) : Clear g removed j := fun k hk hjk =>
  h k hk (.head hop hjk)

/-- What is remembered are the nodes themselves. -/
def Idle (s : Subtraction) : Prop := ∀ i r, s.done.lookup i = some r → r = i

theorem Idle.remember (h : Idle s) (i : Nat) : Idle { s with done := (i, i) :: s.done } := by
  intro j r hjr
  by_cases hj : j = i
  · subst hj
    rw [lookup_cons_self] at hjr
    exact (Option.some.inj hjr).symm
  · rw [lookup_cons_of_ne _ _ hj] at hjr
    exact h j r hjr

/-- Where nothing is removed, nodes are answered as they are. -/
def Passes (g : Arena) (removed : IdSet) (visit : Nat → Subtraction → Nat × Subtraction) : Prop :=
  ∀ (i : Nat) (s : Subtraction), Clear g removed i → Idle s → s.arena = g →
    (visit i s).1 = i ∧ Idle (visit i s).2 ∧ (visit i s).2.arena = g

theorem passes_subtractEach (hvisit : Passes g removed visit) (nodes : List Nat)
    (hn : ∀ m ∈ nodes, Clear g removed m) (h : Idle s) (harena : s.arena = g) : (subtractEach visit nodes s).1 = nodes ∧
      Idle (subtractEach visit nodes s).2 ∧ (subtractEach visit nodes s).2.arena = g := by
  induction nodes generalizing s with
  | nil => exact ⟨rfl, h, harena⟩
  | cons m nodes ih =>
    obtain ⟨hm, hn⟩ := List.forall_mem_cons.1 hn
    obtain ⟨hfirst, h, harena⟩ := hvisit m s hm h harena
    obtain ⟨hrest, h, harena⟩ := ih hn h harena
    exact ⟨List.cons_eq_cons.2 ⟨hfirst, hrest⟩, h, harena⟩

theorem passes_subtractFrom (hvisit : Passes g removed visit) : Passes g removed (subtractFrom visit) := by
  intro i s hclear h harena
  have hop : ∀ j, g.Operand i j → Clear g removed j := fun j => hclear.operand
  rw [subtractFrom, harena]
  cases hr : g.recipe i with
  | built => exact ⟨rfl, h, harena⟩
  | marker target? =>
    cases target? with
    | none => exact ⟨rfl, h, harena⟩
    | some entry =>
      obtain ⟨hsame, h, harena⟩ := hvisit entry s (hop entry (operand_entry hr)) h harena
      exact ⟨if_pos hsame, h, harena⟩
  | union members =>
    obtain ⟨hsame, h, harena⟩ := passes_subtractEach hvisit members.toList
      (fun m hm => hop m (operand_member hr hm)) h harena
    dsimp only
    rw [if_pos hsame]
    exact ⟨rfl, h, harena⟩
  | annotate inner added =>
    obtain ⟨hsame, h, harena⟩ := hvisit inner s (hop inner (operand_inner hr)) h harena
    dsimp only
    rw [if_pos hsame]
    exact ⟨rfl, h, harena⟩
  | prefer winner loser =>
    obtain ⟨hw, h, harena⟩ := hvisit winner s (hop winner (operand_winner hr)) h harena
    obtain ⟨hl, h, harena⟩ := hvisit loser _ (hop loser (operand_loser hr)) h harena
    dsimp only
    rw [if_pos (by simp [hw, hl])]
    exact ⟨rfl, h, harena⟩

theorem passes_subtractWithin (fuel : Nat) : Passes g removed (subtractWithin removed fuel) := by
  induction fuel with
  | zero => exact fun i s _ h harena => ⟨rfl, h, harena⟩
  | succ fuel ih =>
    intro i s hclear h harena
    have hnot : removed.contains i = false := by
      rw [Bool.eq_false_iff, ne_eq, SortedSet.contains_iff]
      exact fun hin => hclear i hin .refl
    rw [subtractWithin, hnot, if_neg Bool.false_ne_true]
    split
    · rename_i r hlookup
      exact ⟨h i r hlookup, h, harena⟩
    · obtain ⟨hsame, h, harena⟩ := passes_subtractFrom ih i _ hclear (h.remember i) harena
      dsimp only
      rw [hsame]
      exact ⟨rfl, h.remember i, harena⟩

theorem subtract_of_clear (h : Clear g (g.members b) a) : g.subtract a b = (a, g) := by
  obtain ⟨hsame, -, harena⟩ := passes_subtractWithin (g.size + 1) a ⟨[], g⟩ h (fun _ _ h => nomatch h) rfl
  exact Prod.ext hsame harena

end Subtract

/-- Subtracting only extends the arena. What is left of a node leads to the leaves that are reached from it around
all nodes that the other one flattens to; a node from which none of them is reached is left as it is. -/
theorem leaf_subtract_iff (hg : Operations new g) (hacyclic : ∀ i, ¬ TransGen g.Operand i i) (hi : i < g.size)
    (r : Nat) :
    Enlarges g (g.subtract i r).2 ∧ (g.subtract i r).1 < (g.subtract i r).2.size ∧
      (∀ l, (g.subtract i r).2.Leaf (g.subtract i r).1 l ↔ Reaches g (g.Flattens r) i l) ∧
      ((∀ j, g.Flattens r j → ¬ ReflTransGen g.Operand i j) → g.subtract i r = (i, g)) := by
  have htidy := (hg.tidy tidy_new).1
  have hf := htidy.founded hacyclic
  have hmembers : (· ∈ g.members r) = g.Flattens r := funext fun j => propext (mem_members_iff htidy hf)
  have hleading := leading_subtract htidy hf hi r
  refine ⟨hleading.toEnlarges, hleading.lt, fun l => ?_, fun hclear => ?_⟩
  · rw [hleading.leaf_iff, Spared, hmembers]
  · exact subtract_of_clear fun j hj => hclear j ((mem_members_iff htidy hf).1 hj)

/-- A loop around a marked choice between the marker of an outer loop and a node, in front of another node. -/
def markedLoop : Arena := ((((three.union 2 3).2.annotate 5 (.opening 0)).2.prefer 6 4).2.marker).2.setEntry 8 7

/-- Without both sides of the choice, only what is behind the inner loop is left. -/
theorem leaf_subtract_iff_markedLoop :
    (∀ l, (markedLoop.subtract 8 5).2.Leaf (markedLoop.subtract 8 5).1 l ↔ l = 4) ∧
      markedLoop.subtract 4 5 = (4, markedLoop) := by
  have hoperations : Operations new markedLoop :=
    .tail (.tail (.tail (.tail (.tail operations_three (.union (by decide) (by decide)))
      (.annotate _ (by decide +kernel))) (.prefer (by decide +kernel) (by decide +kernel))) .marker)
      (.setEntry (by decide +kernel) (by decide +kernel))
  have htidy := (hoperations.tidy tidy_new).1
  have hacyclic := htidy.acyclic_of_falls ([0, 0, 0, 0, 0, 1, 2, 3, 4].getD · 0) (by decide +kernel)
  have hmarker : markedLoop.recipe 8 = .marker (some 7) := by decide +kernel
  have hprefer : markedLoop.recipe 7 = .prefer 6 4 := by decide +kernel
  have hannotate : markedLoop.recipe 6 = .annotate 5 (.opening 0) := by decide +kernel
  have hunion : markedLoop.recipe 5 = .union (.singleton 2 ∪ .singleton 3) := by decide +kernel
  have hopen : markedLoop.recipe 2 = .marker none := by decide +kernel
  have hnode : markedLoop.recipe 3 = .built := by decide +kernel
  have hbehind : markedLoop.recipe 4 = .built := by decide +kernel
  have hflattens : ∀ j, markedLoop.Flattens 5 j ↔ j = 2 ∨ j = 3 := fun j => by
    rw [flattens_union hunion]
    simp [flattens_of_isLeaf htidy (.inr hopen), flattens_of_isLeaf htidy (.inl ⟨hnode, by decide⟩)]
  have hleft : ∀ l, Reaches markedLoop (markedLoop.Flattens 5) 8 l ↔ l = 4 := fun l => by
    have hboth : ¬ Reaches markedLoop (markedLoop.Flattens 5) 5 l := fun h => by
      obtain ⟨-, j, hj, h⟩ := (reaches_derived (by simp [hunion]) (by simp [hunion])).1 h
      exact (reaches_iff.1 h).1 ((hflattens j).2 (by simpa [Operand, hunion] using hj))
    have hlast : Reaches markedLoop (markedLoop.Flattens 5) 4 l ↔ l = 4 := by
      rw [reaches_of_isLeaf (.inl ⟨hbehind, by decide⟩), hflattens]
      simp
    rw [reaches_derived (by simp [hmarker]) (by simp [hmarker]), hflattens]
    simp only [Operand, hmarker, Recipe.Names, Option.some.injEq, exists_eq_left']
    rw [reaches_derived (by simp [hprefer]) (by simp [hprefer]), hflattens]
    simp only [Operand, hprefer, Recipe.Names, exists_eq_or_imp, exists_eq_left, hlast]
    rw [reaches_derived (by simp [hannotate]) (by simp [hannotate])]
    simp [Operand, hannotate, hboth]
  refine ⟨fun l => ?_, ?_⟩
  · rw [(leaf_subtract_iff hoperations hacyclic (by decide +kernel) 5).2.2.1, hleft]
  · refine (leaf_subtract_iff hoperations hacyclic (by decide +kernel) 5).2.2.2 fun j hj h => ?_
    rcases Relation.ReflTransGen.cases_head h with rfl | ⟨k, hk, -⟩
    · simp [hflattens] at hj
    · simp [Operand, hbehind] at hk

end Polymatch.Arena
