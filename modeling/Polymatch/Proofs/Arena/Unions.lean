import Polymatch.Proofs.Arena.Reached

/-! # Unions by their members

A union stands for the atomic nodes that remain when closed markers are followed and unions are
expanded. As long as no marker is closed, the members tell nodes apart: a union is then found again
however it was put together.
-/

namespace Polymatch.Arena

open Relation (TransGen)

variable {g g' : Arena} {i j k a b : Nat} {members : IdSet}

/-- `j` remains of `i` when closed markers are followed, unions are expanded, and the node that matches nothing
is dropped. -/
inductive Flattens (g : Arena) : Nat → Nat → Prop
  | atom {i : Nat} : g.Atomic i → (∀ e, g.recipe i ≠ .marker (some e)) → i ≠ nothing → Flattens g i i
  | member {i m j : Nat} {members : IdSet} : g.recipe i = .union members → m ∈ members → Flattens g m j →
    Flattens g i j
  | entry {i e j : Nat} : g.recipe i = .marker (some e) → Flattens g e j → Flattens g i j

section Flattens

theorem flattens_atom (ha : g.Atomic i) (hm : ∀ e, g.recipe i ≠ .marker (some e)) :
    g.Flattens i j ↔ j = i ∧ i ≠ nothing := by
  constructor
  · intro h
    cases h with
    | atom _ _ hn => exact ⟨rfl, hn⟩
    | member hr => exact absurd hr (ha _)
    | entry hr => exact absurd hr (hm _)
  · rintro ⟨rfl, hn⟩
    exact .atom ha hm hn

theorem flattens_union (hr : g.recipe i = .union members) : g.Flattens i j ↔ ∃ m ∈ members, g.Flattens m j := by
  constructor
  · intro h
    cases h with
    | atom ha => exact absurd hr (ha _)
    | member hr' hm h =>
      obtain rfl := Recipe.union.inj (hr.symm.trans hr')
      exact ⟨_, hm, h⟩
    | entry hr' => cases hr.symm.trans hr'
  · rintro ⟨m, hm, h⟩
    exact .member hr hm h

theorem flattens_entry (hr : g.recipe i = .marker (some k)) : g.Flattens i j ↔ g.Flattens k j := by
  constructor
  · intro h
    cases h with
    | atom _ hm => exact absurd hr (hm _)
    | member hr' => cases hr.symm.trans hr'
    | entry hr' h =>
      cases hr.symm.trans hr'
      exact h
  · exact .entry hr

theorem Tidy.flattens_nothing (hg : g.Tidy) : ¬ g.Flattens nothing j := fun h =>
  ((flattens_atom (fun _ hr => by cases hg.recipe_nothing.symm.trans hr)
    fun _ hr => by cases hg.recipe_nothing.symm.trans hr).1 h).2 rfl

theorem flattens_canonical (hg : g.Founded) (i : Nat) : g.Flattens (g.canonical i) j ↔ g.Flattens i j := by
  induction i using canonical_induct hg with
  | entry i e hr ih => rw [canonical_entry hg hr, ih, flattens_entry hr]
  | other i hm => rw [canonical_of_ne hm]

/-- Nothing else remains of what remains of a node. -/
theorem Flattens.remains (h : g.Flattens i j) : ∀ k, g.Flattens j k ↔ k = j := by
  induction h with
  | atom ha hm hn => exact fun k => (flattens_atom ha hm).trans (and_iff_left hn)
  | member _ _ _ ih => exact ih
  | entry _ _ ih => exact ih

/-- What remains of a node depends on the recipes that it derives by alone. -/
theorem Flattens.transfer {bound : Nat} (h : g.Flattens i j) (hsame : ∀ i < bound, g'.recipe i = g.recipe i)
    (hlt : ∀ i j, i < bound → g.Operand i j → j < bound) (hi : i < bound) : g'.Flattens i j := by
  induction h with
  | atom ha hm hn => exact .atom (fun members => hsame _ hi ▸ ha members) (fun e => hsame _ hi ▸ hm e) hn
  | member hr hm _ ih => exact .member ((hsame _ hi).trans hr) hm (ih (hlt _ _ hi (operand_member hr hm)))
  | entry hr _ ih => exact .entry ((hsame _ hi).trans hr) (ih (hlt _ _ hi (operand_entry hr)))

theorem Tidy.flattens_iff (hg : g.Tidy) (hsame : ∀ i < g.size, g'.recipe i = g.recipe i) (hi : i < g.size) :
    g'.Flattens i j ↔ g.Flattens i j := by
  refine ⟨fun h => h.transfer (fun i hi => (hsame i hi).symm) (fun i j hi hop => ?_) hi,
    fun h => h.transfer hsame (fun i j _ => hg.operand_lt i j) hi⟩
  rw [Operand, hsame i hi] at hop
  exact hg.operand_lt i j hop

end Flattens

section Members

theorem isClosedMarker_iff : g.isClosedMarker i = true ↔ ∃ e, g.recipe i = .marker (some e) := by
  rw [isClosedMarker]
  split
  · rename_i e hr
    exact iff_of_true rfl ⟨e, hr⟩
  · rename_i hne
    exact iff_of_false Bool.false_ne_true fun ⟨e, hr⟩ => hne e hr

/-- Members of a union that are no closed markers remain as they are. -/
theorem Tidy.flattens_members (hg : g.Tidy) (hr : g.recipe i = .union members)
    (hopen : ∀ m ∈ members, ∀ e, g.recipe m ≠ .marker (some e)) : g.Flattens i j ↔ j ∈ members := by
  rw [flattens_union hr]
  constructor
  · rintro ⟨m, hm, h⟩
    obtain ⟨rfl, -⟩ := (flattens_atom (hg.flat i members hr m hm).2 (hopen m hm)).1 h
    exact hm
  · exact fun hj => ⟨j, hj, .atom (hg.flat i members hr j hj).2 (hopen j hj) (hg.flat i members hr j hj).1⟩

theorem mem_membersWithin_iff (hg : g.Tidy) (hf : g.Founded) {fuel : Nat} (hfuel : g.rank i < fuel) :
    j ∈ g.membersWithin fuel i ↔ g.Flattens i j := by
  induction fuel generalizing i with
  | zero => omega
  | succ fuel ih =>
    rw [← flattens_canonical hf, membersWithin]
    have hle := rank_canonical_le hf i
    have hm := canonical_ne_entry hf i
    generalize g.canonical i = c at hle hm
    split
    · rename_i hc
      subst hc
      exact iff_of_false (SortedSet.not_mem_empty _) hg.flattens_nothing
    · rename_i hc
      split
      · rename_i members hr
        split
        · -- some member was closed meanwhile, and stands for other nodes
          have hlt : ∀ m ∈ members, g.rank m < fuel := fun m hmem => by
            have := hf.rank_lt (operand_member hr hmem)
            omega
          simp only [mem_foldl_union, SortedSet.not_mem_empty, false_or, flattens_union hr]
          exact exists_congr fun m => and_congr_right fun hmem => ih (hlt m hmem)
        · rename_i hopen
          simp only [List.any_eq_true, isClosedMarker_iff, not_exists, not_and] at hopen
          exact (hg.flattens_members hr hopen).symm
      · rename_i hatomic
        rw [SortedSet.mem_singleton, flattens_atom hatomic hm, and_iff_left hc]

theorem mem_members_iff (hg : g.Tidy) (hf : g.Founded) : j ∈ g.members i ↔ g.Flattens i j :=
  mem_membersWithin_iff hg hf (Nat.lt_succ_of_lt (hf.rank_lt_size i))

end Members

section Union

/-- The ways in which a union is answered. -/
theorem union_cases (g : Arena) (a b : Nat) :
    (g.union a b = (g.canonical a, g) ∧
        (g.canonical b = g.canonical a ∨ g.canonical b = nothing ∨
          ∀ m ∈ g.members (g.canonical b), m ∈ g.members (g.canonical a))) ∨
      (g.union a b = (g.canonical b, g) ∧
        (g.canonical a = nothing ∨ ∀ m ∈ g.members (g.canonical a), m ∈ g.members (g.canonical b))) ∨
      g.union a b = g.unionOf (g.members (g.canonical a) ∪ g.members (g.canonical b)) := by
  simp only [union]
  split
  · rename_i h
    rw [Bool.or_eq_true, decide_eq_true_eq, decide_eq_true_eq] at h
    exact .inl ⟨rfl, h.imp Eq.symm .inl⟩
  split
  · rename_i h
    exact .inr (.inl ⟨rfl, .inl h⟩)
  split
  · rename_i h
    exact .inl ⟨rfl, .inr (.inr (SortedSet.includes_iff.1 h))⟩
  split
  · rename_i h
    exact .inr (.inl ⟨rfl, .inr (SortedSet.includes_iff.1 h)⟩)
  · exact .inr (.inr rfl)

theorem flattens_unionOf (hg : g.Tidy) (hlt : ∀ m ∈ members, m < g.size)
    (hm : ∀ m ∈ members, ∀ k, g.Flattens m k ↔ k = m) :
    (g.unionOf members).2.Flattens (g.unionOf members).1 j ↔ j ∈ members := by
  rw [unionOf]
  split
  · rename_i hnil
    rw [SortedSet.mem_def, hnil]
    exact iff_of_false hg.flattens_nothing List.not_mem_nil
  · rename_i i hi
    rw [hm i (by simp [SortedSet.mem_def, hi]), SortedSet.mem_def, hi, List.mem_singleton]
  · rw [flattens_union (recipe_derive g _)]
    have hself : ∀ m ∈ members, ((g.derive (.union members)).2.Flattens m j ↔ j = m) := fun m hmem =>
      (hg.flattens_iff (grows_derive g _).recipe_eq (hlt m hmem)).trans (hm m hmem j)
    constructor
    · rintro ⟨m, hmem, h⟩
      rwa [(hself m hmem).1 h]
    · exact fun hj => ⟨j, hj, (hself j hj).2 rfl⟩

/-- A union flattens to what its sides flatten to. -/
theorem flattens_union_iff (hg : g.Tidy) (hf : g.Founded) (ha : a < g.size) (hb : b < g.size) :
    (g.union a b).2.Flattens (g.union a b).1 j ↔ g.Flattens a j ∨ g.Flattens b j := by
  have hca := flattens_canonical (j := j) hf a
  have hcb := flattens_canonical (j := j) hf b
  rcases union_cases g a b with ⟨h, hsides⟩ | ⟨h, hsides⟩ | h
  · rw [h, ← hca, ← hcb, or_iff_left_of_imp]
    rcases hsides with heq | hnothing | hincludes
    · rw [heq]
      exact id
    · rw [hnothing]
      exact fun h => absurd h hg.flattens_nothing
    · simpa only [mem_members_iff hg hf] using hincludes j
  · rw [h, ← hca, ← hcb, or_iff_right_of_imp]
    rcases hsides with hnothing | hincludes
    · rw [hnothing]
      exact fun h => absurd h hg.flattens_nothing
    · simpa only [mem_members_iff hg hf] using hincludes j
  · have hmem : ∀ m ∈ g.members (g.canonical a) ∪ g.members (g.canonical b),
        m < g.size ∧ ∃ i, g.Flattens i m := fun m hm => by
      rcases SortedSet.mem_union.1 hm with hm | hm
      · exact ⟨(hg.mem_members (hg.canonical_lt ha) hm).1, _, (mem_members_iff hg hf).1 hm⟩
      · exact ⟨(hg.mem_members (hg.canonical_lt hb) hm).1, _, (mem_members_iff hg hf).1 hm⟩
    rw [h, flattens_unionOf hg (fun m hm => (hmem m hm).1) fun m hm => (hmem m hm).2.elim fun _ hf => hf.remains,
      SortedSet.mem_union, mem_members_iff hg hf, mem_members_iff hg hf, hca, hcb]

/-- A union adds one node at most. -/
theorem union_adds (g : Arena) (a b : Nat) :
    (g.union a b).2 = g ∨ ∃ members : IdSet, (∀ i < g.size, g.recipe i ≠ .union members) ∧
      g.union a b = g.push { recipe := .union members, node? := none } := by
  rcases union_cases g a b with ⟨h, -⟩ | ⟨h, -⟩ | h
  · exact .inl (by rw [h])
  · exact .inl (by rw [h])
  · rw [h, unionOf]
    split
    · exact .inl rfl
    · exact .inl rfl
    · rcases derive_cases g (.union (g.members (g.canonical a) ∪ g.members (g.canonical b))) with
        ⟨i, -, -, h⟩ | ⟨hnew, h⟩
      · exact .inl (by rw [h])
      · exact .inr ⟨_, hnew, h⟩

theorem Founded.push (hg : g.Founded) {s : Slot} (hs : ∀ j, s.recipe.Names j → j < g.size) :
    (g.push s).2.Founded := by
  have hle := (grows_push g s).size_le
  refine ⟨Nat.lt_of_lt_of_le hg.nothing_lt hle, fun i j h => ?_, acyclic_push hg.operand_lt hs hg.acyclic⟩
  exact Nat.lt_of_lt_of_le (operand_push hg.operand_lt hs h) hle

theorem Founded.union (hf : g.Founded) (hg : g.Tidy) (ha : a < g.size) (hb : b < g.size) :
    (g.union a b).2.Founded := by
  have hkept := (kept_union hg ha hb).tidy
  rcases union_adds g a b with h | ⟨members, -, h⟩
  · rwa [h]
  · rw [h] at hkept ⊢
    refine hf.push fun j hj => hkept.earlier g.size j ?_ fun t => ?_
    · rwa [Operand, recipe_push_self]
    · rw [recipe_push_self]
      exact Recipe.noConfusion

theorem members_union (hg : g.Tidy) (hf : g.Founded) (ha : a < g.size) (hb : b < g.size) :
    (g.union a b).2.members (g.union a b).1 = g.members a ∪ g.members b := by
  apply SortedSet.ext_mem
  intro j
  rw [mem_members_iff (kept_union hg ha hb).tidy (hf.union hg ha hb), flattens_union_iff hg hf ha hb,
    SortedSet.mem_union, mem_members_iff hg hf, mem_members_iff hg hf]

end Union

/-! ## Arenas without closed markers -/

/-- No marker is closed. -/
def Open (g : Arena) : Prop := ∀ i e, g.recipe i ≠ .marker (some e)

section Open

theorem Open.founded (ho : g.Open) (hg : g.Tidy) : g.Founded := by
  have hearlier : ∀ {i j}, g.Operand i j → j < i := fun {i j} hop => by
    refine hg.earlier i j hop fun t hr => ?_
    cases t with
    | none => simp [Operand, hr] at hop
    | some e => exact ho i e hr
  have hbelow : ∀ {i j}, TransGen g.Operand i j → j < i := fun h => by
    induction h with
    | single hop => exact hearlier hop
    | tail _ hop ih => exact Nat.lt_trans (hearlier hop) ih
  exact hg.founded fun i hi => Nat.lt_irrefl i (hbelow hi)

theorem Open.of_settles (ho : g'.Open) (h : Settles g g') : g.Open := fun i e hr =>
  ho i e (h.recipe_of hr (by simp) (by simp))

theorem Open.recipe_eq (ho : g'.Open) (h : Settles g g') : ∀ i < g.size, g'.recipe i = g.recipe i := fun i hi => by
  by_cases hm : g.recipe i = .marker none
  · obtain ⟨target?, ht⟩ := h.marker i hm
    cases target? with
    | none => rw [ht, hm]
    | some e => exact absurd ht (ho i e)
  · exact h.recipe_eq i hi hm

theorem Open.union (ho : g.Open) (a b : Nat) : (g.union a b).2.Open := by
  rcases union_adds g a b with h | ⟨members, -, h⟩
  · rwa [h]
  · rw [h]
    intro i e hr
    rcases push_cases g _ (operand_entry hr).lt_size with ⟨-, hr', -⟩ | ⟨-, hr', -⟩
    · exact ho i e (hr'.symm.trans hr)
    · cases hr'.symm.trans hr

/-- A node is told by the number of its members what kind it is of. -/
theorem Open.members_cases (ho : g.Open) (hg : g.Tidy) (i : Nat) :
    i = nothing ∧ g.members i = ∅ ∨ g.members i = .singleton i ∨
      g.recipe i = .union (g.members i) ∧ 2 ≤ (g.members i).size := by
  rw [members, membersWithin, canonical_of_ne (ho i)]
  split
  · rename_i hi
    exact .inl ⟨hi, rfl⟩
  split
  · rename_i members hr
    have hopen : members.toList.any g.isClosedMarker = false := by
      rw [Bool.eq_false_iff, ne_eq, List.any_eq_true]
      rintro ⟨m, -, hm⟩
      obtain ⟨e, he⟩ := isClosedMarker_iff.1 hm
      exact ho m e he
    rw [hopen]
    exact .inr (.inr ⟨hr, hg.several i members hr⟩)
  · exact .inr (.inl rfl)

/-- While no marker is closed, nodes with the same members are one node. -/
theorem Open.eq_of_members (ho : g.Open) (hg : g.Tidy) (h : g.members i = g.members k) : i = k := by
  have hempty : (∅ : IdSet).size = 0 := rfl
  have hone : ∀ i : Nat, (SortedSet.singleton i).size = 1 := fun _ => rfl
  rcases ho.members_cases hg i with ⟨rfl, hi⟩ | hi | ⟨hr, hi⟩ <;>
    rcases ho.members_cases hg k with ⟨rfl, hk⟩ | hk | ⟨hr', hk⟩
  · rfl
  · rw [hi, hk] at h
    exact absurd ((congrArg SortedSet.size h).symm.trans hempty) (by simp [hone])
  · rw [← h, hi, hempty] at hk
    omega
  · rw [hi, hk] at h
    exact absurd ((congrArg SortedSet.size h).trans hempty) (by simp [hone])
  · rw [hi, hk] at h
    exact SortedSet.mem_singleton.1 (h ▸ SortedSet.mem_singleton.2 rfl)
  · rw [← h, hi, hone] at hk
    omega
  · rw [h, hk, hempty] at hi
    omega
  · rw [h, hk, hone] at hi
    omega
  · refine hg.once i k (by rw [hr, hr', h]) (by simp [hr]) (by simp [hr])

theorem size_union_le (g : Arena) (a b : Nat) : (g.union a b).2.size ≤ g.size + 1 := by
  rcases union_adds g a b with h | ⟨_, -, h⟩
  · rw [h]
    exact Nat.le_succ _
  · rw [h, size_push]

theorem Tidy.members_union_old (hg : g.Tidy) (hf : g.Founded) (ha : a < g.size) (hb : b < g.size) (hi : i < g.size) :
    (g.union a b).2.members i = g.members i := by
  have hkept := kept_union hg ha hb
  apply SortedSet.ext_mem
  intro j
  rw [mem_members_iff hkept.tidy (hf.union hg ha hb), hg.flattens_iff hkept.grows.recipe_eq hi, mem_members_iff hg hf]

/-- A union in an arena that has a node with its members already is that node. -/
theorem Open.union_eq (ho : g.Open) (hg : g.Tidy) (ha : a < g.size) (hb : b < g.size) (hi : i < g.size)
    (h : g.members i = g.members a ∪ g.members b) : (g.union a b).1 = i := by
  have hf := ho.founded hg
  refine (ho.union a b).eq_of_members (kept_union hg ha hb).tidy ?_
  rw [members_union hg hf ha hb, hg.members_union_old hf ha hb hi, h]

theorem Open.union_congr (ho : g.Open) (hg : g.Tidy) (ha : a < g.size) (hb : b < g.size) {a' b' : Nat}
    (ha' : a' < g.size) (hb' : b' < g.size) (h : g.members a ∪ g.members b = g.members a' ∪ g.members b') :
    (g.union a b).1 = (g.union a' b').1 := by
  have hf := ho.founded hg
  have hmembers : ∀ {a b}, a < g.size → b < g.size → (g.union a b).1 < g.size →
      g.members (g.union a b).1 = g.members a ∪ g.members b := fun ha hb hi =>
    (hg.members_union_old hf ha hb hi).symm.trans (members_union hg hf ha hb)
  rcases Nat.lt_or_ge (g.union a b).1 g.size with hlt | hge
  · exact (ho.union_eq hg ha' hb' hlt ((hmembers ha hb hlt).trans h)).symm
  rcases Nat.lt_or_ge (g.union a' b').1 g.size with hlt' | hge'
  · exact ho.union_eq hg ha hb hlt' ((hmembers ha' hb' hlt').trans h.symm)
  · have hnew := Nat.lt_of_lt_of_le (kept_union hg ha hb).lt (size_union_le g a b)
    have hnew' := Nat.lt_of_lt_of_le (kept_union hg ha' hb').lt (size_union_le g a' b')
    omega

end Open

/-! ## Unions of many nodes -/

/-- Unions of several nodes, bracketed in some way. -/
inductive Bracketing
  | leaf (i : Nat)
  | both (left right : Bracketing)

namespace Bracketing

/-- Form the unions, from the inside to the outside. -/
def build (g : Arena) : Bracketing → Nat × Arena
  | leaf i => (i, g)
  | both left right =>
    let (a, g) := left.build g
    let (b, g) := right.build g
    g.union a b

@[simp] def leaves : Bracketing → List Nat
  | leaf i => [i]
  | both left right => left.leaves ++ right.leaves

/-- All leaves are nodes of an arena. -/
def Within (t : Bracketing) (g : Arena) : Prop := ∀ i ∈ t.leaves, i < g.size

/-- The bracketing of a fold from the left that starts with the node that matches nothing. -/
def ofList (nodes : List Nat) : Bracketing := nodes.foldl (fun t i => both t (leaf i)) (leaf nothing)

variable {t left right : Bracketing}

theorem Within.sides (h : (both left right).Within g) : left.Within g ∧ right.Within g :=
  ⟨fun i hi => h i (List.mem_append_left _ hi), fun i hi => h i (List.mem_append_right _ hi)⟩

theorem Within.mono (h : t.Within g) (hgrow : Grows g g') : t.Within g' := fun i hi =>
  Nat.lt_of_lt_of_le (h i hi) hgrow.size_le

theorem kept_build (hg : g.Tidy) (ht : t.Within g) : Kept g (t.build g) := by
  induction t generalizing g with
  | leaf i => exact .self hg (ht i (by simp))
  | both left right ihl ihr =>
    obtain ⟨hleft, hright⟩ := ht.sides
    have hl := ihl hg hleft
    have hr := ihr hl.tidy (hright.mono hl.grows.toGrows)
    have hu := kept_union hr.tidy (Nat.lt_of_lt_of_le hl.lt hr.grows.size_le) hr.lt
    exact hu.after (hl.grows.trans hr.grows)

theorem open_build (ho : g.Open) (t : Bracketing) : (t.build g).2.Open := by
  induction t generalizing g with
  | leaf i => exact ho
  | both left right ihl ihr => exact (ihr (ihl ho)).union _ _

/-- The leaves together flatten to what is built from them. -/
theorem flattens_build (hg : g.Tidy) (ho : g.Open) (ht : t.Within g) :
    (t.build g).2.Flattens (t.build g).1 j ↔ ∃ i ∈ t.leaves, g.Flattens i j := by
  induction t generalizing g with
  | leaf i => simp [build]
  | both left right ihl ihr =>
    obtain ⟨hleft, hright⟩ := ht.sides
    have hl := kept_build hg hleft
    have hright' := hright.mono hl.grows.toGrows
    have hr := kept_build hl.tidy hright'
    have hol := open_build ho left
    have hor := open_build hol right
    rw [build, flattens_union_iff hr.tidy (hor.founded hr.tidy) (Nat.lt_of_lt_of_le hl.lt hr.grows.size_le) hr.lt,
      hl.tidy.flattens_iff hr.grows.recipe_eq hl.lt, ihl hg ho hleft, ihr hl.tidy hol hright']
    have hsame : ∀ i ∈ right.leaves, ((left.build g).2.Flattens i j ↔ g.Flattens i j) := fun i hi =>
      hg.flattens_iff hl.grows.recipe_eq (hright i hi)
    simp only [leaves, List.mem_append, or_and_right, exists_or]
    exact or_congr_right (exists_congr fun i => and_congr_right (hsame i))

/-- In an arena that has a node for the leaves already, that node is built. -/
theorem build_eq (hg : g.Tidy) (ho : g.Open) (ht : t.Within g) (hi : i < g.size)
    (h : ∀ j, g.Flattens i j ↔ ∃ k ∈ t.leaves, g.Flattens k j) : (t.build g).1 = i := by
  have hkept := kept_build hg ht
  have ho' := open_build ho t
  refine ho'.eq_of_members hkept.tidy (SortedSet.ext_mem fun j => ?_)
  have hf := ho'.founded hkept.tidy
  rw [mem_members_iff hkept.tidy hf, mem_members_iff hkept.tidy hf, flattens_build hg ho ht, ← h,
    hg.flattens_iff hkept.grows.recipe_eq hi]

theorem build_foldl (nodes : List Nat) (t : Bracketing) : (nodes.foldl (fun t i => both t (leaf i)) t).build g =
    nodes.foldl (fun r i => r.2.union r.1 i) (t.build g) := by
  induction nodes generalizing t with
  | nil => rfl
  | cons i nodes ih => exact ih (both t (leaf i))

theorem build_ofList (g : Arena) (nodes : List Nat) : (ofList nodes).build g = g.unionAll nodes :=
  build_foldl nodes (leaf nothing)

theorem leaves_foldl (nodes : List Nat) (t : Bracketing) :
    (nodes.foldl (fun t i => both t (leaf i)) t).leaves = t.leaves ++ nodes := by
  induction nodes generalizing t with
  | nil => exact (List.append_nil _).symm
  | cons i nodes ih => simpa using ih (both t (leaf i))

theorem leaves_ofList (nodes : List Nat) : (ofList nodes).leaves = nothing :: nodes :=
  leaves_foldl nodes (leaf nothing)

end Bracketing

/-- A union has the members of both sides. While no marker is closed, it is determined by them: whatever else
happens to the arena meanwhile, the union of nodes with the same members is the same node, in whatever order and
bracketing and however often the nodes are given. -/
theorem union_determined (hg : Operations new g) (hacyclic : ∀ i, ¬ TransGen g.Operand i i) :
    (∀ i j, j ∈ g.members i ↔ g.Flattens i j) ∧
    (∀ a < g.size, ∀ b < g.size, (g.union a b).1 < (g.union a b).2.size ∧
      (g.union a b).2.members (g.union a b).1 = g.members a ∪ g.members b ∧
      ∀ j, (g.union a b).2.Flattens (g.union a b).1 j ↔ g.Flattens a j ∨ g.Flattens b j) ∧
    (g.Open → ∀ a < g.size, ∀ b < g.size, ∀ a' < g.size, ∀ b' < g.size,
      g.members a ∪ g.members b = g.members a' ∪ g.members b' → (g.union a b).1 = (g.union a' b').1) ∧
    (∀ t : Bracketing, t.Within g → ∀ g', Operations (t.build g).2 g' → g'.Open → ∀ t' : Bracketing, t'.Within g' →
      (∀ j, (∃ i ∈ t.leaves, g.Flattens i j) ↔ ∃ i ∈ t'.leaves, g'.Flattens i j) →
      (t'.build g').1 = (t.build g).1) ∧
    ∀ nodes, (Bracketing.ofList nodes).build g = g.unionAll nodes ∧
      (Bracketing.ofList nodes).leaves = nothing :: nodes := by
  have htidy := (hg.tidy tidy_new).1
  have hf := htidy.founded hacyclic
  refine ⟨fun i j => mem_members_iff htidy hf, fun a ha b hb => ?_, fun ho a ha b hb a' ha' b' hb' h => ?_,
    fun t ht g' hg' ho' t' ht' hsame => ?_,
    fun nodes => ⟨Bracketing.build_ofList g nodes, Bracketing.leaves_ofList nodes⟩⟩
  · exact ⟨(kept_union htidy ha hb).lt, members_union htidy hf ha hb, fun j => flattens_union_iff htidy hf ha hb⟩
  · exact ho.union_congr htidy ha hb ha' hb' h
  · have hkept := Bracketing.kept_build htidy ht
    obtain ⟨htidy', hsettles⟩ := hg'.tidy hkept.tidy
    have ho := ho'.of_settles (hkept.grows.settles.trans hsettles)
    have hlt := Nat.lt_of_lt_of_le hkept.lt hsettles.size_le
    refine Bracketing.build_eq htidy' ho' ht' hlt fun j => ?_
    rw [hkept.tidy.flattens_iff (ho'.recipe_eq hsettles) hkept.lt, Bracketing.flattens_build htidy ho ht]
    exact hsame j

section Examples

/-- An open marker and two nodes built outright. -/
def three : Arena := ((new.marker.2.add .dead).2.add .dead).2

/-- The union of the marker and the second node, and the marker closed at the third one afterwards. -/
def late : Arena := (three.union 2 3).2.setEntry 2 4

theorem operations_three : Operations new three :=
  .tail (.tail (.single .marker) (.add .dead)) (.add .dead)

theorem operations_late : Operations new late :=
  .tail (.tail operations_three (.union (by decide) (by decide)))
    (.setEntry (by decide +kernel) (by decide +kernel))

theorem open_three : three.Open := by
  intro i e h
  have hrecipe : ∀ i < 5, three.recipe i = .built ∨ three.recipe i = .marker none := by decide +kernel
  have hi := (operand_entry h).lt_size
  rcases hrecipe i hi with hr | hr <;> cases hr.symm.trans h

theorem acyclic_late : ∀ i, ¬ TransGen late.Operand i i := by
  have htidy := (operations_late.tidy tidy_new).1
  exact htidy.acyclic_of_falls ([0, 0, 1, 0, 0, 2].getD · 0) (by decide +kernel)

/-- A union that holds a marker which is closed by now, and two bracketings of the same three nodes. -/
theorem union_determined_late_three :
    (late.union 5 3).2.members (late.union 5 3).1 = late.members 5 ∪ late.members 3 ∧
      ((Bracketing.both (.leaf 4) (.both (.both (.leaf 3) (.leaf 2)) (.both (.leaf nothing) (.leaf 4)))).build
        (three.unionAll [2, 3, 4]).2).1 = (three.unionAll [2, 3, 4]).1 := by
  have htidy := (operations_three.tidy tidy_new).1
  have hlate := union_determined operations_late acyclic_late
  have hthree := union_determined operations_three (open_three.founded htidy).acyclic
  refine ⟨(hlate.2.1 5 (by decide +kernel) 3 (by decide +kernel)).2.1, ?_⟩
  rw [← (hthree.2.2.2.2 [2, 3, 4]).1]
  have hwithin : (Bracketing.ofList [2, 3, 4]).Within three := fun i hi => by
    have hlt : ∀ i ∈ (Bracketing.ofList [2, 3, 4]).leaves, i < 5 := by decide
    exact hlt i hi
  have hgrows := (Bracketing.kept_build htidy hwithin).grows
  have hleaves : ∀ i, i ∈ (Bracketing.ofList [2, 3, 4]).leaves ↔ i ∈ [4, 3, 2, nothing, 4] := fun i => by
    simp only [Bracketing.leaves_ofList, List.mem_cons, List.not_mem_nil, or_false]
    omega
  refine hthree.2.2.2.1 _ hwithin _ .refl (Bracketing.open_build open_three _) _ (fun i hi => ?_) fun j => ?_
  · exact Nat.lt_of_lt_of_le (hwithin i ((hleaves i).2 hi)) hgrows.size_le
  · have hsame : ∀ i ∈ (Bracketing.ofList [2, 3, 4]).leaves, _ := fun i hi =>
      (htidy.flattens_iff (j := j) hgrows.recipe_eq (hwithin i hi)).symm
    exact (exists_congr fun i => and_congr_right (hsame i)).trans
      (exists_congr fun i => and_congr_left' (hleaves i))

end Examples

end Polymatch.Arena
