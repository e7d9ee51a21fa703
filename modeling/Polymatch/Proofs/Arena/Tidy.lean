import Polymatch.Proofs.Arena.Loops
import Polymatch.Proofs.Arena.Resolve

/-! # Tidy arenas

Whatever is stored in its nodes, an arena on which operations are performed stays tidy. Recipes
name nodes that exist, a union has several members, none of them a union or the node that matches
nothing, and nodes that derive from others by the same recipe are one node.
-/

namespace Polymatch

/-- All edges lead below a bound. -/
def Node.Below (n : Node) (bound : Nat) : Prop := ∀ e ∈ n.edges.edges, e.next < bound

theorem Node.Below.mono {n : Node} {a b : Nat} (h : n.Below a) (hle : a ≤ b) : n.Below b := fun e he =>
  Nat.lt_of_lt_of_le (h e he) hle

namespace Arena

open Relation (TransGen ReflTransGen)

structure Tidy (g : Arena) : Prop where
  two_le : 2 ≤ g.size
  recipe_nothing : g.recipe nothing = .built
  operand_lt : ∀ i j, g.Operand i j → j < g.size
  earlier : ∀ i j, g.Operand i j → (∀ t, g.recipe i ≠ .marker t) → j < i
  several : ∀ i members, g.recipe i = .union members → 2 ≤ members.size
  flat : ∀ i members, g.recipe i = .union members → ∀ m ∈ members, m ≠ nothing ∧ g.Atomic m
  once : ∀ i j, g.recipe i = g.recipe j → g.recipe i ≠ .built → (∀ t, g.recipe i ≠ .marker t) → i = j
  built : ∀ i < g.size, g.recipe i = .built → g.content? i ≠ none

/-- A recipe that can be derived in a tidy arena. -/
structure Suits (g : Arena) (r : Recipe) : Prop where
  lt : ∀ j, r.Names j → j < g.size
  several : ∀ members, r = .union members → 2 ≤ members.size
  flat : ∀ members, r = .union members → ∀ m ∈ members, m ≠ nothing ∧ g.Atomic m

variable {g g' : Arena} {i j k a b : Nat} {r : Recipe} {marks : Marks} {n : Node}

theorem tidy_new : new.Tidy where
  two_le := Nat.le_refl _
  recipe_nothing := rfl
  operand_lt i j h := wellFormed_new.operand_lt i j h
  earlier i j h _ := by simp [Operand, recipe_new] at h
  several i members h := by simp [recipe_new] at h
  flat i members h := by simp [recipe_new] at h
  once i j _ h := absurd (recipe_new i) h
  built i hi h := wellFormed_new.built i hi h

namespace Tidy

theorem nothing_lt (hg : g.Tidy) : nothing < g.size := Nat.lt_of_lt_of_le (by decide) hg.two_le

theorem founded (hg : g.Tidy) (hacyclic : ∀ i, ¬ TransGen g.Operand i i) : g.Founded :=
  ⟨hg.nothing_lt, hg.operand_lt, hacyclic⟩

theorem acyclic_of_falls (hg : g.Tidy) (height : Nat → Nat)
    (h : ∀ i < g.size, ∀ j < g.size, g.Operand i j → height j < height i) (i : Nat) : ¬ TransGen g.Operand i i := by
  intro hi
  have hfalls : TransGen (· > ·) (height i) (height i) :=
    hi.lift height fun j k hop => h j hop.lt_size k (hg.operand_lt j k hop) hop
  rw [Relation.transGen_eq_self] at hfalls
  exact Nat.lt_irrefl _ hfalls

theorem of_slots (hg : g.Tidy) (h : g'.slots = g.slots) : g'.Tidy := by
  obtain ⟨slots, bodies, ambiguous⟩ := g
  obtain ⟨slots', bodies', ambiguous'⟩ := g'
  obtain rfl : slots' = slots := h
  exact ⟨hg.two_le, hg.recipe_nothing, hg.operand_lt, hg.earlier, hg.several, hg.flat, hg.once, hg.built⟩

theorem push (hg : g.Tidy) {s : Slot} (hs : g.Suits s.recipe)
    (hnew : ∀ i < g.size, g.recipe i = s.recipe → s.recipe = .built ∨ ∃ t, s.recipe = .marker t)
    (hbuilt : s.recipe = .built → s.node? ≠ none) : (g.push s).2.Tidy := by
  have hgrow := grows_push g s
  have hlt : ∀ i j, (g.push s).2.Operand i j → j < g.size := fun _ _ hop => operand_push hg.operand_lt hs.lt hop
  refine ⟨Nat.le_trans hg.two_le hgrow.size_le, ?_, fun i j hop => Nat.lt_of_lt_of_le (hlt i j hop) hgrow.size_le,
    ?_, ?_, ?_, ?_, ?_⟩
  · exact (recipe_push_of_lt _ _ hg.nothing_lt).trans hg.recipe_nothing
  · intro i j hop hmarker
    rcases push_cases g s hop.lt_size with ⟨hi, hr, -⟩ | ⟨rfl, -, -⟩
    · rw [hr] at hmarker
      exact hg.earlier i j ((hgrow.operand_iff hi).1 hop) hmarker
    · exact hlt g.size j hop
  · intro i members h
    rcases push_cases g s (lt_size_of_recipe (i := i) (by simp [h])) with ⟨-, hr, -⟩ | ⟨-, hr, -⟩
    · exact hg.several i members (hr.symm.trans h)
    · exact hs.several members (hr.symm.trans h)
  · intro i members h m hm
    have hold : m ≠ nothing ∧ g.Atomic m := by
      rcases push_cases g s (lt_size_of_recipe (i := i) (by simp [h])) with ⟨-, hr, -⟩ | ⟨-, hr, -⟩
      · exact hg.flat i members (hr.symm.trans h) m hm
      · exact hs.flat members (hr.symm.trans h) m hm
    exact ⟨hold.1, hgrow.atomic (hlt i m (by simpa [Operand, h] using hm)) hold.2⟩
  · intro i j heq hb hmarker
    have hnot : ∀ {k}, k < g.size → g.recipe k = s.recipe → s.recipe ≠ .built →
        (∀ t, s.recipe ≠ .marker t) → False := fun hk hr hb hm =>
      (hnew _ hk hr).elim hb (not_exists.2 hm)
    rcases push_cases g s (lt_size_of_recipe hb) with ⟨hi, hri, -⟩ | ⟨rfl, hri, -⟩ <;>
      rcases push_cases g s (lt_size_of_recipe (heq ▸ hb)) with ⟨hj, hrj, -⟩ | ⟨rfl, hrj, -⟩
    · rw [hri] at heq hb hmarker
      exact hg.once i j (heq.trans hrj) hb hmarker
    · rw [hri] at heq hb hmarker
      have heq := heq.trans hrj
      rw [heq] at hb hmarker
      exact (hnot hi heq hb hmarker).elim
    · rw [hri] at heq hb hmarker
      exact (hnot hj (heq.trans hrj).symm hb hmarker).elim
    · rfl
  · intro i hi h
    rcases push_cases g s hi with ⟨hi, hr, hc⟩ | ⟨-, hr, hc⟩
    · rw [hc]
      exact hg.built i hi (hr.symm.trans h)
    · rw [hc]
      exact hbuilt (hr.symm.trans h)

theorem suits_marker (g : Arena) : g.Suits (.marker none) :=
  ⟨fun _ h => (nomatch h), fun _ h => (nomatch h), fun _ h => nomatch h⟩

theorem marker (hg : g.Tidy) : g.marker.2.Tidy :=
  hg.push (suits_marker g) (fun _ _ _ => .inr ⟨none, rfl⟩) fun h => nomatch h

theorem add (hg : g.Tidy) (n : Node) : (g.add n).2.Tidy :=
  hg.push ⟨fun _ h => h.elim, fun _ h => (nomatch h), fun _ h => nomatch h⟩ (fun _ _ _ => .inl rfl)
    fun _ => Option.some_ne_none n

theorem derive (hg : g.Tidy) (hr : g.Suits r) (hne : r ≠ .built) : (g.derive r).2.Tidy := by
  rcases derive_cases g r with ⟨i, -, -, h⟩ | ⟨hnew, h⟩
  · rwa [h]
  · rw [h]
    exact hg.push hr (fun i hi hri => absurd hri (hnew i hi)) fun hb => absurd hb hne

theorem setEntry (hg : g.Tidy) {m entry : Nat} (hm : g.recipe m = .marker none) (hentry : entry < g.size) :
    (g.setEntry m entry).Tidy := by
  have hself := recipe_setEntry_self g m entry (lt_size_of_recipe (by simp [hm]))
  have hrecipe : ∀ {i}, (∀ t, (g.setEntry m entry).recipe i ≠ .marker t) →
      (g.setEntry m entry).recipe i = g.recipe i := fun {i} hi =>
    recipe_setEntry_of_ne _ _ _ fun him => hi (some entry) (by rw [him, hself])
  have hne : nothing ≠ m := by
    rintro rfl
    simp [hg.recipe_nothing] at hm
  refine ⟨?_, ?_, ?_, ?_, ?_, ?_, ?_, ?_⟩
  · rw [size_setEntry]
    exact hg.two_le
  · rw [recipe_setEntry_of_ne _ _ _ hne, hg.recipe_nothing]
  · intro i j hop
    rw [size_setEntry]
    by_cases hi : i = m
    · subst hi
      rw [Operand, hself] at hop
      exact Option.some.inj hop ▸ hentry
    · rw [Operand, recipe_setEntry_of_ne _ _ _ hi] at hop
      exact hg.operand_lt i j hop
  · intro i j hop hmarker
    rw [Operand, hrecipe hmarker] at hop
    exact hg.earlier i j hop (hrecipe hmarker ▸ hmarker)
  · intro i members hr
    exact hg.several i members ((hrecipe (by simp [hr])).symm.trans hr)
  · intro i members hr k hk
    have hk := hg.flat i members ((hrecipe (by simp [hr])).symm.trans hr) k hk
    exact ⟨hk.1, atomic_setEntry hm hk.2⟩
  · intro i j heq hbuilt hmarker
    rw [hrecipe hmarker] at hbuilt
    have hi := hrecipe hmarker
    have hj := hrecipe (i := j) (heq ▸ hmarker)
    exact hg.once i j (hi.symm.trans (heq.trans hj)) hbuilt (hi ▸ hmarker)
  · intro i hi hr
    rw [size_setEntry] at hi
    rw [content?_setEntry]
    exact hg.built i hi ((hrecipe (by simp [hr])).symm.trans hr)

theorem setNode (hg : g.Tidy) (hk : g.recipe k ≠ .built) (n : Node) : (g.setNode k n).Tidy := by
  have hop : (g.setNode k n).Operand = g.Operand := by
    funext i j
    rw [Operand, recipe_setNode, Operand]
  refine ⟨?_, ?_, ?_, ?_, ?_, ?_, ?_, ?_⟩
  · rw [size_setNode]
    exact hg.two_le
  · rw [recipe_setNode, hg.recipe_nothing]
  · rw [hop, size_setNode]
    exact hg.operand_lt
  · intro i j hij hmarker
    rw [hop] at hij
    simp only [recipe_setNode] at hmarker
    exact hg.earlier i j hij hmarker
  · intro i members hr
    exact hg.several i members ((recipe_setNode ..).symm.trans hr)
  · intro i members hr m hm
    have hm := hg.flat i members ((recipe_setNode ..).symm.trans hr) m hm
    refine ⟨hm.1, fun members' => ?_⟩
    rw [recipe_setNode]
    exact hm.2 members'
  · intro i j heq hbuilt hmarker
    simp only [recipe_setNode] at heq hbuilt hmarker
    exact hg.once i j heq hbuilt hmarker
  · intro i hi hr
    rw [size_setNode] at hi
    rw [recipe_setNode] at hr
    have hik : i ≠ k := fun hik => hk (hik ▸ hr)
    rw [content?_setNode_of_ne _ _ _ hik]
    exact hg.built i hi hr

theorem follow_lt (hg : g.Tidy) {fuel : Nat} (hi : i < g.size) : g.follow fuel i < g.size := by
  induction fuel generalizing i with
  | zero => exact hi
  | succ fuel ih =>
    rw [follow]
    split
    · rename_i entry hr
      exact ih (hg.operand_lt i entry (operand_entry hr))
    · exact hi

theorem canonical_lt (hg : g.Tidy) (hi : i < g.size) : g.canonical i < g.size := hg.follow_lt hi

/-- What the members of a node are like. -/
theorem mem_membersWithin (hg : g.Tidy) {fuel : Nat} (hi : i < g.size) (hj : j ∈ g.membersWithin fuel i) :
    j < g.size ∧ j ≠ nothing ∧ g.Atomic j := by
  induction fuel generalizing i with
  | zero => exact (SortedSet.not_mem_empty _ hj).elim
  | succ fuel ih =>
    rw [membersWithin] at hj
    have hc := hg.canonical_lt hi
    generalize g.canonical i = c at hc hj
    split at hj
    · exact (SortedSet.not_mem_empty _ hj).elim
    · rename_i hne
      split at hj
      · rename_i members hr
        have hlt : ∀ m ∈ members, m < g.size := fun m hm =>
          hg.operand_lt c m (operand_member hr hm)
        split at hj
        · simp only [mem_foldl_union, SortedSet.not_mem_empty, false_or] at hj
          obtain ⟨m, hm, hj⟩ := hj
          exact ih (hlt m hm) hj
        · exact ⟨hlt j hj, hg.flat c members hr j hj⟩
      · rename_i hatomic
        obtain rfl := SortedSet.mem_singleton.1 hj
        exact ⟨hc, hne, hatomic⟩

theorem mem_members (hg : g.Tidy) (hi : i < g.size) (hj : j ∈ g.members i) :
    j < g.size ∧ j ≠ nothing ∧ g.Atomic j :=
  hg.mem_membersWithin hi hj

end Tidy

/-- `g'` has the nodes of `g` and perhaps more, of which only those built outright have contents. -/
structure Adds (g g' : Arena) : Prop extends Grows g g' where
  discloses : ∀ i n, g'.content? i = some n → g'.recipe i = .built ∨ g.content? i = some n
  ambiguous : g'.ambiguous = g.ambiguous

theorem Adds.refl (g : Arena) : Adds g g := ⟨.refl g, fun _ _ => .inr, rfl⟩

theorem Adds.trans {g'' : Arena} (h : Adds g g') (h' : Adds g' g'') : Adds g g'' where
  toGrows := h.toGrows.trans h'.toGrows
  discloses i n hn := by
    refine (h'.discloses i n hn).elim .inl fun hn' => (h.discloses i n hn').imp_left fun hr => ?_
    rw [h'.recipe_eq i (lt_size_of_content? (by simp [hn'])), hr]
  ambiguous := h'.ambiguous.trans h.ambiguous

theorem adds_push {s : Slot} (hs : s.recipe ≠ .built → s.node? = none) : Adds g (g.push s).2 where
  toGrows := grows_push ..
  discloses i n hn := by
    rcases push_cases g s (lt_size_of_content? (i := i) (by simp [hn])) with ⟨-, -, hc⟩ | ⟨-, hr, hc⟩
    · exact .inr (hc.symm.trans hn)
    · refine .inl (hr.trans (by_contra fun hb => ?_))
      cases (hs hb).symm.trans (hc.symm.trans hn)
  ambiguous := rfl

theorem adds_derive (g : Arena) (r : Recipe) : Adds g (g.derive r).2 := by
  rcases derive_cases g r with ⟨i, -, -, h⟩ | ⟨-, h⟩
  · rw [h]
    exact .refl g
  · rw [h]
    exact adds_push fun _ => rfl

/-- `g'` has the nodes of `g` and perhaps more, and some markers that are open in `g` are closed. No node that
derives from others has got a content. -/
structure Continues (g g' : Arena) : Prop extends Settles g g' where
  discloses : ∀ i n, g'.content? i = some n → g'.recipe i = .built ∨ g.content? i = some n
  ambiguous : g'.ambiguous = g.ambiguous

theorem Adds.continues (h : Adds g g') : Continues g g' := ⟨h.toGrows.settles, h.discloses, h.ambiguous⟩

/-- What is known goes on to say what the nodes do. -/
theorem Informed.continues (hg : g.Informed) (h : Continues g g') : g'.Informed := by
  intro i n hn hmarker
  rcases h.discloses i n hn with hr | hold
  · exact describes_built hr hn
  · have hlt := lt_size_of_content? (Option.ne_none_iff_exists'.2 ⟨n, hold⟩)
    have hmarker' : ∀ t, g.recipe i ≠ .marker t := fun t hr => by
      cases t with
      | none =>
        obtain ⟨patched?, hp⟩ := h.marker i hr
        exact hmarker patched? hp
      | some e => exact hmarker _ ((h.recipe_eq i hlt (by simp [hr])).trans hr)
    intro h' hh' hs'
    rw [h.ambiguous]
    exact hg i n hold hmarker' h' hh' (h.toSettles.trans hs')

/-- An operation that closes no marker has kept the arena tidy and answered a node of it. -/
structure Kept (g : Arena) (result : Nat × Arena) : Prop where
  tidy : result.2.Tidy
  grows : Adds g result.2
  lt : result.1 < result.2.size

/-- An operation has kept the arena tidy and answered a node of it. -/
structure Settled (g : Arena) (result : Nat × Arena) : Prop where
  tidy : result.2.Tidy
  continues : Continues g result.2
  lt : result.1 < result.2.size

namespace Kept

variable {result : Nat × Arena}

theorem settled (h : Kept g result) : Settled g result := ⟨h.tidy, h.grows.continues, h.lt⟩

theorem self (hg : g.Tidy) (hi : i < g.size) : Kept g (i, g) := ⟨hg, .refl g, hi⟩

theorem after (h : Kept g' result) (hgrows : Adds g g') : Kept g result := ⟨h.tidy, hgrows.trans h.grows, h.lt⟩

theorem derive (hg : g.Tidy) (hr : g.Suits r) (hne : r ≠ .built) : Kept g (g.derive r) :=
  ⟨hg.derive hr hne, adds_derive g r, derive_lt g r⟩

end Kept

section Operations

theorem kept_edge (hg : g.Tidy) (σ : Alphabet) (ranges : List Interval) (next : Nat) (marks : Marks) :
    Kept g (g.edge σ ranges next marks) := by
  rw [edge]
  dsimp only
  split
  · exact .self hg hg.nothing_lt
  · refine ⟨hg.add _, adds_push fun hb => absurd rfl hb, ?_⟩
    rw [Arena.add, size_push]
    exact Nat.lt_succ_self _

theorem kept_unionOf (hg : g.Tidy) {members : IdSet}
    (hm : ∀ m ∈ members, m < g.size ∧ m ≠ nothing ∧ g.Atomic m) : Kept g (g.unionOf members) := by
  rw [unionOf]
  split
  · exact .self hg hg.nothing_lt
  · rename_i i hi
    exact .self hg (hm i (by simp [SortedSet.mem_def, hi])).1
  · rename_i hnil hone
    have hseveral : 2 ≤ members.size := by
      rw [SortedSet.size]
      rcases hl : members.toList with _ | ⟨i, _ | ⟨j, rest⟩⟩
      · exact absurd hl hnil
      · exact absurd hl (hone i)
      · exact Nat.le_add_left 2 rest.length
    refine .derive hg ⟨fun j hj => (hm j hj).1, fun s hs => ?_, fun s hs m hmem => ?_⟩ (by simp)
    · cases hs
      exact hseveral
    · cases hs
      exact (hm m hmem).2

theorem kept_union (hg : g.Tidy) (ha : a < g.size) (hb : b < g.size) : Kept g (g.union a b) := by
  have hca := hg.canonical_lt ha
  have hcb := hg.canonical_lt hb
  simp only [union]
  split
  · exact .self hg hca
  split
  · exact .self hg hcb
  split
  · exact .self hg hca
  split
  · exact .self hg hcb
  · exact kept_unionOf hg fun m hm =>
      (SortedSet.mem_union.1 hm).elim (hg.mem_members hca) (hg.mem_members hcb)

theorem kept_unionAll_from (hg : g.Tidy) {nodes : List Nat} (ha : a < g.size) (hn : ∀ i ∈ nodes, i < g.size) :
    Kept g (nodes.foldl (fun r i => r.2.union r.1 i) (a, g)) := by
  induction nodes generalizing a g with
  | nil => exact .self hg ha
  | cons i nodes ih =>
    have hunion := kept_union hg ha (hn i List.mem_cons_self)
    exact (ih hunion.tidy hunion.lt fun j hj => Nat.lt_of_lt_of_le (hn j (List.mem_cons_of_mem _ hj))
      hunion.grows.size_le).after hunion.grows

theorem kept_unionAll (hg : g.Tidy) {nodes : List Nat} (hn : ∀ i ∈ nodes, i < g.size) :
    Kept g (g.unionAll nodes) := kept_unionAll_from hg hg.nothing_lt hn

theorem kept_annotateWithin {fuel : Nat} (hg : g.Tidy) (hi : i < g.size) :
    Kept g (annotateWithin fuel g i marks) := by
  induction fuel generalizing i marks with
  | zero => exact .self hg hi
  | succ fuel ih =>
    have hc := hg.canonical_lt hi
    simp only [annotateWithin]
    generalize g.canonical i = c at hc
    split
    · exact .self hg hc
    · split
      · rename_i deeper existing hr
        exact ih (hg.operand_lt c deeper (operand_inner hr))
      · exact .derive hg ⟨by simpa using hc, by simp, by simp⟩ (by simp)

theorem kept_annotate (hg : g.Tidy) (hi : i < g.size) : Kept g (g.annotate i marks) := kept_annotateWithin hg hi

theorem kept_prefer (hg : g.Tidy) (ha : a < g.size) (hb : b < g.size) : Kept g (g.prefer a b) := by
  have hca := hg.canonical_lt ha
  have hcb := hg.canonical_lt hb
  simp only [prefer]
  generalize g.canonical a = a at hca
  generalize g.canonical b = b at hcb
  split
  · exact .self hg hca
  split
  · exact .self hg hcb
  · refine .derive hg ⟨fun j hj => ?_, by simp, by simp⟩ (by simp)
    rcases hj with rfl | rfl
    · exact hca
    · exact hcb

end Operations

section Subtract

variable {removed : IdSet} {fuel : Nat} {s : Subtraction} {visit : Nat → Subtraction → Nat × Subtraction}

/-- Where a subtraction stands: the arena is tidy, and what is remembered are nodes of it. -/
structure Orderly (s : Subtraction) : Prop where
  tidy : s.arena.Tidy
  lt : ∀ i r, s.done.lookup i = some r → r < s.arena.size

theorem Orderly.remember (h : Orderly s) {r : Nat} (hr : r < s.arena.size) (i : Nat) :
    Orderly { s with done := (i, r) :: s.done } where
  tidy := h.tidy
  lt j k hjk := by
    by_cases hj : j = i
    · rw [hj, lookup_cons_self] at hjk
      exact Option.some.inj hjk ▸ hr
    · rw [lookup_cons_of_ne _ _ hj] at hjk
      exact h.lt j k hjk

/-- A subtraction has gone on and answered a node. -/
structure Subtracting (s : Subtraction) (result : Nat × Subtraction) : Prop where
  orderly : Orderly result.2
  grows : Adds s.arena result.2.arena
  lt : result.1 < result.2.arena.size

theorem Subtracting.kept {result : Nat × Subtraction} (h : Subtracting s result) {answer : Nat × Arena}
    (ha : Kept result.2.arena answer) : Subtracting s (answer.1, { result.2 with arena := answer.2 }) where
  orderly := ⟨ha.tidy, fun i r hr => Nat.lt_of_lt_of_le (h.orderly.lt i r hr) ha.grows.size_le⟩
  grows := h.grows.trans ha.grows
  lt := ha.lt

/-- Nodes of the arena are dealt with in order. -/
def DealsWith (visit : Nat → Subtraction → Nat × Subtraction) : Prop :=
  ∀ (i : Nat) (s : Subtraction), Orderly s → i < s.arena.size → Subtracting s (visit i s)

theorem orderly_subtractEach (hvisit : DealsWith visit) {nodes : List Nat} (h : Orderly s)
    (hn : ∀ i ∈ nodes, i < s.arena.size) :
    Orderly (subtractEach visit nodes s).2 ∧ Adds s.arena (subtractEach visit nodes s).2.arena ∧
      ∀ r ∈ (subtractEach visit nodes s).1, r < (subtractEach visit nodes s).2.arena.size := by
  induction nodes generalizing s with
  | nil => exact ⟨h, .refl _, fun _ hr => nomatch hr⟩
  | cons i nodes ih =>
    have hfirst := hvisit i s h (hn i List.mem_cons_self)
    obtain ⟨horderly, hgrows, hlt⟩ := ih hfirst.orderly fun j hj =>
      Nat.lt_of_lt_of_le (hn j (List.mem_cons_of_mem _ hj)) hfirst.grows.size_le
    exact ⟨horderly, hfirst.grows.trans hgrows,
      List.forall_mem_cons.2 ⟨Nat.lt_of_lt_of_le hfirst.lt hgrows.size_le, hlt⟩⟩

theorem subtracting_subtractFrom (hvisit : DealsWith visit) (h : Orderly s) (hi : i < s.arena.size) :
    Subtracting s (subtractFrom visit i s) := by
  have hop : ∀ j, s.arena.Operand i j → j < s.arena.size := h.tidy.operand_lt i
  rw [subtractFrom]
  cases hr : s.arena.recipe i with
  | built => exact ⟨h, .refl _, hi⟩
  | marker target? =>
    cases target? with
    | none => exact ⟨h, .refl _, hi⟩
    | some entry =>
      have hrest := hvisit entry s h (hop entry (operand_entry hr))
      dsimp only
      refine ⟨hrest.orderly, hrest.grows, ?_⟩
      split
      · exact Nat.lt_of_lt_of_le hi hrest.grows.size_le
      · exact hrest.lt
  | union members =>
    obtain ⟨horderly, hgrows, hlt⟩ := orderly_subtractEach hvisit h fun m (hm : m ∈ members.toList) =>
      hop m (by simpa [Operand, hr, SortedSet.mem_def] using hm)
    have hstay : Subtracting s (i, (subtractEach visit members.toList s).2) :=
      ⟨horderly, hgrows, Nat.lt_of_lt_of_le hi hgrows.size_le⟩
    dsimp only
    split
    · exact hstay
    · exact hstay.kept (kept_unionAll horderly.tidy hlt)
  | annotate inner added =>
    have hrest := hvisit inner s h (hop inner (operand_inner hr))
    dsimp only
    split
    · exact ⟨hrest.orderly, hrest.grows, Nat.lt_of_lt_of_le hi hrest.grows.size_le⟩
    · exact hrest.kept (kept_annotate hrest.orderly.tidy hrest.lt)
  | prefer winner loser =>
    have hw := hvisit winner s h (hop winner (operand_winner hr))
    have hl := hvisit loser _ hw.orderly
      (Nat.lt_of_lt_of_le (hop loser (operand_loser hr)) hw.grows.size_le)
    have hboth : Subtracting s (visit loser (visit winner s).2) := ⟨hl.orderly, hw.grows.trans hl.grows, hl.lt⟩
    dsimp only
    split
    · exact ⟨hboth.orderly, hboth.grows, Nat.lt_of_lt_of_le hi hboth.grows.size_le⟩
    · exact hboth.kept (kept_prefer hl.orderly.tidy (Nat.lt_of_lt_of_le hw.lt hl.grows.size_le) hl.lt)

theorem dealsWith_subtractWithin (removed : IdSet) (fuel : Nat) : DealsWith (subtractWithin removed fuel) := by
  induction fuel with
  | zero => exact fun i s h hi => ⟨h, .refl _, hi⟩
  | succ fuel ih =>
    intro i s h hi
    rw [subtractWithin]
    split
    · exact ⟨h, .refl _, h.tidy.nothing_lt⟩
    · split
      · rename_i r hr
        exact ⟨h, .refl _, h.lt i r hr⟩
      · have hfrom := subtracting_subtractFrom ih (h.remember hi i) hi
        exact ⟨hfrom.orderly.remember hfrom.lt i, hfrom.grows, hfrom.lt⟩

theorem kept_subtract (hg : g.Tidy) (ha : a < g.size) (b : Nat) : Kept g (g.subtract a b) := by
  have hstart : Orderly ⟨[], g⟩ := ⟨hg, fun _ _ h => nomatch h⟩
  have hdone := dealsWith_subtractWithin (g.members b) (g.size + 1) a ⟨[], g⟩ hstart ha
  exact ⟨hdone.orderly.tidy, hdone.grows, hdone.lt⟩

end Subtract

section CloseLoop

variable {m body tail : Nat}

theorem kept_entryOf (hg : g.Tidy) (ha : a < g.size) (hb : b < g.size) (policy : LoopPolicy) :
    Kept g (g.entryOf policy a b) := by
  cases policy with
  | plain => exact kept_union hg ha hb
  | extending => exact kept_prefer hg ha hb
  | limiting => exact kept_prefer hg hb ha

/-- Closing a loop changes the recipe of its marker alone. -/
theorem settled_closeLoop (hg : g.Tidy) (hm : g.recipe m = .marker none) (hbody : body < g.size)
    (htail : tail < g.size) (policy : LoopPolicy) : Settled g (g.closeLoop m body tail policy) := by
  have honce := kept_subtract hg hbody m
  have hentry := kept_entryOf honce.tidy honce.lt (Nat.lt_of_lt_of_le htail honce.grows.size_le) policy
  have hgrows := honce.grows.trans hentry.grows
  have hopen := (hgrows.recipe_eq m (lt_size_of_recipe (by simp [hm]))).trans hm
  rw [closeLoop_eq]
  dsimp only
  generalize (g.subtract body m).2.entryOf policy (g.subtract body m).1 tail = r at *
  have hsettles : Settles r.2 { r.2.setEntry m r.1 with bodies := (m, body) :: r.2.bodies } :=
    (settles_setEntry _ m _ hopen).trans (Grows.settles (grows_of_slots rfl))
  refine ⟨(hentry.tidy.setEntry hopen hentry.lt).of_slots rfl, ⟨hgrows.toGrows.trans_settles hsettles, ?_, ?_⟩, ?_⟩
  · intro i n hn
    have hn : (r.2.setEntry m r.1).content? i = some n := hn
    rw [content?_setEntry] at hn
    refine (hgrows.discloses i n hn).imp_left fun hb => ?_
    exact (hsettles.recipe_eq i (lt_size_of_content? (by simp [hn])) (by simp [hb])).trans hb
  · exact hgrows.ambiguous
  · exact Nat.lt_of_lt_of_le hentry.lt hsettles.size_le

end CloseLoop

end Arena

end Polymatch
