import Polymatch.Proofs.Arena.Loops
import Polymatch.Proofs.Arena.Mirrors
import Polymatch.Proofs.Arena.Writes

/-! # Operations on mirrored arenas

Performed on counterparts, an operation answers counterparts, and the arenas go on to mirror each
other. A node that is derived anew in one arena is derived anew in the other one too, unless the
other arena has the same union already.
-/

namespace Polymatch.Arena

open Relation (TransGen ReflTransGen)

variable {g g' : Arena} {R R' : Nat → Nat → Prop} {a a' b b' i i' m m' : Nat} {r r' : Recipe} {marks : Marks}

/-- No node derives from itself, and the recipes are in order. -/
structure Sound (g : Arena) : Prop where
  wellFormed : g.WellFormed
  tidy : g.Tidy

/-- Sound arenas, one of which mirrors the other. -/
structure Twins (g g' : Arena) (R : Nat → Nat → Prop) : Prop where
  left : g.Sound
  right : g'.Sound
  mirrors : Mirrors g g' R

/-- An operation on both arenas has answered counterparts. -/
structure Agree (g g' : Arena) (R : Nat → Nat → Prop) (result result' : Nat × Arena) : Prop where
  grows : Grows g result.2
  grows' : Grows g' result'.2
  twins : ∃ R', (∀ i j, R i j → R' i j) ∧ Twins result.2 result'.2 R' ∧ R' result.1 result'.1

theorem Agree.self (ht : Twins g g' R) (h : R i i') : Agree g g' R (i, g) (i', g') :=
  ⟨.refl g, .refl g', R, fun _ _ => id, ht, h⟩

/-- Both arenas get a node. -/
theorem Agree.push (ht : Twins g g' R) {s s' : Slot} (hs : (g.push s).2.Sound) (hs' : (g'.push s').2.Sound)
    (hrecipe : s.recipe.Alike R s'.recipe)
    (hcontent : s.recipe = .built → ∃ n n', s.node? = some n ∧ s'.node? = some n' ∧ n.Alike R n') :
    Agree g g' R (g.push s) (g'.push s') :=
  ⟨grows_push .., grows_push .., Adjoined R g.size g'.size, fun _ _ => .inl,
    ⟨hs, hs', ht.mirrors.push hrecipe hcontent⟩, .inr ⟨rfl, rfl⟩⟩

theorem Agree.after {h h' : Arena} {result result' : Nat × Arena} (ha : Agree h h' R' result result')
    (hR : ∀ i j, R i j → R' i j) (hgrow : Grows g h) (hgrow' : Grows g' h') : Agree g g' R result result' := by
  obtain ⟨R'', hR', htwins, hresult⟩ := ha.twins
  exact ⟨hgrow.trans ha.grows, hgrow'.trans ha.grows', R'', fun i j h => hR' i j (hR i j h), htwins, hresult⟩

namespace Twins

theorem canonical (ht : Twins g g' R) (h : R i i') : R (g.canonical i) (g'.canonical i') :=
  ht.mirrors.canonical ht.left.wellFormed.founded ht.right.wellFormed.founded h

theorem sameSet_members (ht : Twins g g' R) (h : R i i') : SameSet R (g.members i) (g'.members i') :=
  ht.mirrors.sameSet_members ht.left.tidy ht.right.tidy ht.left.wellFormed.founded ht.right.wellFormed.founded h

theorem eq_nothing_iff (ht : Twins g g' R) (h : R i i') : i' = nothing ↔ i = nothing :=
  (ht.mirrors.nothing_iff h).symm

end Twins

section Derive

theorem Mirrors.suits (hm : Mirrors g g' R) (halike : r.Alike R r') (hs : g.Suits r) : g'.Suits r' := by
  refine ⟨fun j hj => ?_, fun members' hr => ?_, fun members' hr m' hm' => ?_⟩
  · obtain ⟨i, hR, -⟩ := halike.flip.names hj
    exact (hm.lt hR).2
  · subst hr
    cases halike with
    | union hmembers =>
      rw [SortedSet.size, ← hmembers.length_eq]
      exact hs.several _ rfl
  · subst hr
    cases halike with
    | union hmembers =>
      obtain ⟨m, hmem, hR⟩ := exists_related hmembers.flip hm'
      obtain ⟨hne, hatomic⟩ := hs.flat _ rfl m hmem
      exact ⟨fun h => hne ((hm.nothing_iff hR).2 h), (hm.atomic_iff hR).1 hatomic⟩

theorem Sound.derive (hg : g.Sound) (hs : g.Suits r) (hb : r ≠ .built) : (g.derive r).2.Sound :=
  ⟨hg.wellFormed.derive (fits_derived hb hs.lt fun members hr m hm => (hs.flat members hr m hm).2),
    hg.tidy.derive hs hb⟩

theorem agree_derive (ht : Twins g g' R) (halike : r.Alike R r') (hs : g.Suits r) (hb : r ≠ .built)
    (hmark : ∀ t, r ≠ .marker t) : Agree g g' R (g.derive r) (g'.derive r') := by
  have hm := ht.mirrors
  have hb' : r' ≠ .built := by
    rintro rfl
    cases halike
    exact hb rfl
  have hmark' : ∀ t, r' ≠ .marker t := by
    rintro t rfl
    cases halike
    · exact hmark _ rfl
    · exact hmark _ rfl
  have hleft := ht.left.derive hs hb
  have hright := ht.right.derive (hm.suits halike hs) hb'
  rcases derive_cases g r with ⟨i, hi, hri, h⟩ | ⟨hnew, h⟩ <;>
    rcases derive_cases g' r' with ⟨j, hj, hrj, h'⟩ | ⟨hnew', h'⟩ <;> rw [h] at hleft ⊢ <;> rw [h'] at hright ⊢
  · obtain ⟨k, hik⟩ := hm.total i hi
    have hrk : g'.recipe k = r' := (hri ▸ hm.recipe hik).right_unique halike hm.right
    obtain rfl : k = j := ht.right.tidy.once k j (hrk.trans hrj.symm) (hrk ▸ hb') (hrk ▸ hmark')
    exact .self ht hik
  · obtain ⟨k, hik⟩ := hm.total i hi
    exact absurd ((hri ▸ hm.recipe hik).right_unique halike hm.right) (hnew' k (hm.lt hik).2)
  · -- the union was there already, besides the counterparts
    have hfresh : ∀ i, ¬ R i j := fun i hij =>
      hnew i (hm.lt hij).1 ((hrj ▸ hm.recipe hij).left_unique halike hm.left)
    have hunion := (hm.onto j hj).resolve_left fun ⟨i, hij⟩ => hfresh i hij
    refine ⟨grows_push .., .refl g', Adjoined R g.size j, fun _ _ => .inl, ⟨hleft, hright, ?_⟩, .inr ⟨rfl, rfl⟩⟩
    refine hm.adjoin (.refl g') hj hfresh (hrj ▸ halike) (fun h => absurd h hb)
      (fun i' hge hi' => absurd hi' (Nat.not_lt.2 hge)) fun ha => ?_
    obtain ⟨members, hr⟩ := hunion
    exact absurd (hrj.symm.trans hr) (halike.atomic_iff.1 ha members)
  · exact .push ht hleft hright halike fun h => absurd h hb

end Derive

section Union

theorem agree_unionOf (ht : Twins g g' R) {members members' : IdSet} (hs : SameSet R members members')
    (hmem : ∀ m ∈ members, m < g.size ∧ m ≠ nothing ∧ g.Atomic m) :
    Agree g g' R (g.unionOf members) (g'.unionOf members') := by
  have hall := ht.mirrors.forall₂_members hs fun m hm => (hmem m hm).2.2
  have hderive : 2 ≤ members.size → Agree g g' R (g.derive (.union members)) (g'.derive (.union members')) :=
    fun hsize => by
      refine agree_derive ht (.union hall) ⟨fun j hj => (hmem j hj).1, fun s hs => ?_, fun s hs m hm => ?_⟩
        Recipe.noConfusion fun _ => Recipe.noConfusion
      · cases hs
        exact hsize
      · cases hs
        exact (hmem m hm).2
  rw [unionOf, unionOf]
  rw [SortedSet.size] at hderive
  generalize members.toList = l at hall hderive
  generalize members'.toList = l' at hall
  cases hall with
  | nil => exact .self ht ht.mirrors.nothing
  | cons h hrest =>
    cases hrest with
    | nil => exact .self ht h
    | cons h' hrest => exact hderive (Nat.le_add_left 2 _)

theorem agree_union (ht : Twins g g' R) (ha : R a a') (hb : R b b') :
    Agree g g' R (g.union a b) (g'.union a' b') := by
  have hca := ht.canonical ha
  have hcb := ht.canonical hb
  simp only [union]
  generalize g.canonical a = a at hca
  generalize g.canonical b = b at hcb
  generalize g'.canonical a' = a' at hca
  generalize g'.canonical b' = b' at hcb
  have hsa := ht.sameSet_members hca
  have hsb := ht.sameSet_members hcb
  simp only [ht.mirrors.eq_iff hca hcb, ht.eq_nothing_iff hca, ht.eq_nothing_iff hcb,
    ht.mirrors.includes_eq hsa hsb, ht.mirrors.includes_eq hsb hsa]
  split
  · exact .self ht hca
  split
  · exact .self ht hcb
  split
  · exact .self ht hca
  split
  · exact .self ht hcb
  · refine agree_unionOf ht (hsa.union hsb) fun m hm => ?_
    exact (SortedSet.mem_union.1 hm).elim (ht.left.tidy.mem_members (ht.mirrors.lt hca).1)
      (ht.left.tidy.mem_members (ht.mirrors.lt hcb).1)

theorem agree_unionAll_from {nodes nodes' : List Nat} (ht : Twins g g' R) (ha : R a a')
    (hn : List.Forall₂ R nodes nodes') : Agree g g' R (nodes.foldl (fun r i => r.2.union r.1 i) (a, g))
      (nodes'.foldl (fun r i => r.2.union r.1 i) (a', g')) := by
  induction nodes generalizing a a' g g' nodes' R with
  | nil =>
    cases hn
    exact .self ht ha
  | cons i nodes ih =>
    cases hn with
    | cons hi hn =>
      have hone := agree_union ht ha hi
      obtain ⟨R', hR, ht', hresult⟩ := hone.twins
      exact (ih ht' hresult (hn.imp hR)).after hR hone.grows hone.grows'

theorem agree_unionAll {nodes nodes' : List Nat} (ht : Twins g g' R) (hn : List.Forall₂ R nodes nodes') :
    Agree g g' R (g.unionAll nodes) (g'.unionAll nodes') :=
  agree_unionAll_from ht ht.mirrors.nothing hn

end Union

section Annotate

theorem agree_annotateWithin {fuel fuel' : Nat} (ht : Twins g g' R) (h : R i i') (hfuel : g.rank i < fuel)
    (hfuel' : g'.rank i' < fuel') :
    Agree g g' R (annotateWithin fuel g i marks) (annotateWithin fuel' g' i' marks) := by
  induction fuel generalizing fuel' i i' marks with
  | zero => omega
  | succ fuel ih =>
    cases fuel' with
    | zero => omega
    | succ fuel' =>
      have hc := ht.canonical h
      have hle := rank_canonical_le ht.left.wellFormed.founded i
      have hle' := rank_canonical_le ht.right.wellFormed.founded i'
      simp only [annotateWithin]
      generalize g.canonical i = c at hc hle
      generalize g'.canonical i' = c' at hc hle'
      simp only [ht.eq_nothing_iff hc]
      split
      · exact .self ht hc
      · have hderive : Agree g g' R (g.derive (.annotate c marks)) (g'.derive (.annotate c' marks)) := by
          refine agree_derive ht (.annotate marks hc) ⟨?_, by simp, by simp⟩ Recipe.noConfusion
            fun _ => Recipe.noConfusion
          rintro j rfl
          exact (ht.mirrors.lt hc).1
        have hop : ∀ j, (g.recipe c).Names j → g.rank j < g.rank c := fun j => ht.left.wellFormed.rank_lt
        have hop' : ∀ j, (g'.recipe c').Names j → g'.rank j < g'.rank c' := fun j =>
          ht.right.wellFormed.rank_lt
        have halike := ht.mirrors.recipe hc
        generalize g.recipe c = r at halike hop
        generalize g'.recipe c' = r' at halike hop'
        cases halike with
        | @annotate deeper deeper' existing hdeeper =>
          have := hop deeper rfl
          have := hop' deeper' rfl
          exact ih hdeeper (by omega) (by omega)
        | _ => exact hderive

theorem agree_annotate (ht : Twins g g' R) (h : R i i') : Agree g g' R (g.annotate i marks) (g'.annotate i' marks) :=
  agree_annotateWithin ht h (Nat.lt_succ_of_lt (ht.left.wellFormed.rank_lt_size i))
    (Nat.lt_succ_of_lt (ht.right.wellFormed.rank_lt_size i'))

theorem agree_prefer (ht : Twins g g' R) (ha : R a a') (hb : R b b') :
    Agree g g' R (g.prefer a b) (g'.prefer a' b') := by
  have hca := ht.canonical ha
  have hcb := ht.canonical hb
  simp only [prefer]
  generalize g.canonical a = a at hca
  generalize g.canonical b = b at hcb
  generalize g'.canonical a' = a' at hca
  generalize g'.canonical b' = b' at hcb
  simp only [ht.mirrors.eq_iff hca hcb, ht.eq_nothing_iff hca, ht.eq_nothing_iff hcb]
  split
  · exact .self ht hca
  split
  · exact .self ht hcb
  · refine agree_derive ht (.prefer hca hcb) ⟨?_, by simp, by simp⟩ Recipe.noConfusion fun _ => Recipe.noConfusion
    rintro j (rfl | rfl)
    · exact (ht.mirrors.lt hca).1
    · exact (ht.mirrors.lt hcb).1

end Annotate

section Class

variable {σ : Alphabet} {ranges : List Interval} {next next' : Nat}

theorem alike_classEdges (ho : classOverlap? σ ranges = none) (h : R next next') :
    Node.Alike R ⟨.ofDisjoint (classEdges σ ranges next marks), ∅, ∅⟩
      ⟨.ofDisjoint (classEdges σ ranges next' marks), ∅, ∅⟩ := by
  refine ⟨rfl, rfl, fun x => ?_⟩
  have hlink := fun next k => @link?_classEdges marks σ ranges next ho x k
  by_cases hx : Interval.covers ranges x = true ∧ x < σ.limit
  · have hsome : ∀ next, (EdgeMap.ofDisjoint (classEdges σ ranges next marks)).link? x =
        some ⟨next, .singleton 0, marks⟩ := fun next => (hlink next _).2 ⟨hx, rfl⟩
    rw [hsome, hsome]
    exact .some ⟨h, rfl, rfl⟩
  · have hnone : ∀ next, (EdgeMap.ofDisjoint (classEdges σ ranges next marks)).link? x = none := fun next =>
      Option.eq_none_iff_forall_ne_some.2 fun k hk => hx ((hlink next k).1 hk).1
    rw [hnone, hnone]
    exact .none

theorem isEmpty_iff_link? {edges : EdgeMap} : edges.isEmpty = true ↔ ∀ x, edges.link? x = none := by
  rw [EdgeMap.isEmpty, List.isEmpty_iff]
  constructor
  · intro hnil x
    refine Option.eq_none_iff_forall_ne_some.2 fun k hk => ?_
    obtain ⟨e, he, -⟩ := EdgeMap.link?_eq_some.1 hk
    rw [hnil] at he
    cases he
  · intro hnone
    refine List.eq_nil_iff_forall_not_mem.2 fun e he => ?_
    have hlo : e.contains e.lo = true := Edge.contains_iff.2 ⟨Nat.le_refl _, edges.canonical.nonempty e he⟩
    cases (hnone e.lo).symm.trans (EdgeMap.link?_eq_some.2 ⟨e, he, hlo, rfl⟩)

theorem Node.Alike.isEmpty_eq {n n' : Node} (h : n.Alike R n') : n.edges.isEmpty = n'.edges.isEmpty := by
  rw [Bool.eq_iff_iff, isEmpty_iff_link?, isEmpty_iff_link?]
  refine forall_congr' fun x => ?_
  have hx := h.link x
  generalize n.edges.link? x = k? at hx
  generalize n'.edges.link? x = k'? at hx
  cases hx <;> simp

theorem agree_edge (ht : Twins g g' R) (ho : classOverlap? σ ranges = none) (h : R next next') :
    Agree g g' R (g.edge σ ranges next marks) (g'.edge σ ranges next' marks) := by
  have hlt := (ht.mirrors.lt h).1
  have hlt' := (ht.mirrors.lt h).2
  have halike := @alike_classEdges R marks σ ranges next next' ho h
  have hempty := Node.Alike.isEmpty_eq halike
  have hw := @grown_edge g marks σ ranges next ht.left.wellFormed hlt
  have hw' := @grown_edge g' marks σ ranges next' ht.right.wellFormed hlt'
  have hk := kept_edge ht.left.tidy σ ranges next marks
  have hk' := kept_edge ht.right.tidy σ ranges next' marks
  dsimp only at hempty
  rw [edge, edge] at *
  dsimp only at *
  rw [hempty] at *
  split
  · exact .self ht ht.mirrors.nothing
  · rename_i hne
    rw [if_neg hne] at hw hw' hk hk'
    exact .push ht ⟨hw.wellFormed, hk.tidy⟩ ⟨hw'.wellFormed, hk'.tidy⟩ .built fun _ => ⟨_, _, rfl, rfl, halike⟩

theorem agree_marker (ht : Twins g g' R) : Agree g g' R g.marker g'.marker :=
  .push ht ⟨ht.left.wellFormed.marker, ht.left.tidy.marker⟩ ⟨ht.right.wellFormed.marker, ht.right.tidy.marker⟩ .opened
    fun h => nomatch h

end Class

section Subtract

variable {R₀ : Nat → Nat → Prop} {s s' : Subtraction} {removed removed' : IdSet} {bound bound' : Nat}
  {visit visit' : Nat → Subtraction → Nat × Subtraction}

/-- What is remembered are counterparts. -/
def Remembered (R : Nat → Nat → Prop) : List (Nat × Nat) → List (Nat × Nat) → Prop :=
  List.Forall₂ fun p p' => R p.1 p'.1 ∧ R p.2 p'.2

theorem Remembered.mono {done done' : List (Nat × Nat)} (h : Remembered R done done')
    (hR : ∀ i j, R i j → R' i j) : Remembered R' done done' :=
  List.Forall₂.imp (fun _ _ hp => ⟨hR _ _ hp.1, hR _ _ hp.2⟩) h

theorem Mirrors.lookup (hm : Mirrors g g' R) {done done' : List (Nat × Nat)} (hd : Remembered R done done')
    (h : R i i') : Option.Rel R (done.lookup i) (done'.lookup i') := by
  induction hd with
  | nil => exact .none
  | @cons p p' done done' hp _ ih =>
    obtain ⟨k, r⟩ := p
    obtain ⟨k', r'⟩ := p'
    by_cases hik : i = k
    · subst hik
      obtain rfl : i' = k' := hm.right h hp.1
      rw [lookup_cons_self, lookup_cons_self]
      exact .some hp.2
    · have hik' : i' ≠ k' := fun heq => hik ((hm.eq_iff h hp.1).1 heq)
      rw [lookup_cons_of_ne _ _ hik, lookup_cons_of_ne _ _ hik']
      exact ih

/-- A subtraction has gone on in both arenas and answered counterparts. -/
structure SubtractAgree (R : Nat → Nat → Prop) (s s' : Subtraction) (result result' : Nat × Subtraction) : Prop where
  grows : Grows s.arena result.2.arena
  grows' : Grows s'.arena result'.2.arena
  twins : ∃ R', (∀ i j, R i j → R' i j) ∧ Twins result.2.arena result'.2.arena R' ∧
    Remembered R' result.2.done result'.2.done ∧ R' result.1 result'.1

/-- Nodes of small rank are dealt with alike, whatever nodes have been added to the counterparts of `R₀`. -/
def VisitsAlike (R₀ : Nat → Nat → Prop) (bound bound' : Nat)
    (visit visit' : Nat → Subtraction → Nat × Subtraction) : Prop :=
  ∀ {R : Nat → Nat → Prop} {s s' : Subtraction} {i i' : Nat}, (∀ i j, R₀ i j → R i j) → Twins s.arena s'.arena R →
    Remembered R s.done s'.done → R i i' → s.arena.rank i < bound → s'.arena.rank i' < bound' →
    SubtractAgree R s s' (visit i s) (visit' i' s')

theorem SubtractAgree.self (ht : Twins s.arena s'.arena R) (hd : Remembered R s.done s'.done) (h : R i i') :
    SubtractAgree R s s' (i, s) (i', s') :=
  ⟨.refl _, .refl _, R, fun _ _ => id, ht, hd, h⟩

theorem Agree.subtract {t t' : Subtraction} {result result' : Nat × Arena}
    (ha : Agree t.arena t'.arena R' result result') (hR : ∀ i j, R i j → R' i j) (hd : Remembered R' t.done t'.done)
    (hgrow : Grows s.arena t.arena) (hgrow' : Grows s'.arena t'.arena) :
    SubtractAgree R s s' (result.1, { t with arena := result.2 }) (result'.1, { t' with arena := result'.2 }) := by
  obtain ⟨R'', hR', ht, hresult⟩ := ha.twins
  exact ⟨hgrow.trans ha.grows, hgrow'.trans ha.grows', R'', fun i j h => hR' i j (hR i j h), ht, hd.mono hR', hresult⟩

theorem forall₂_eq_iff (hm : Mirrors g g' R) {l k l' k' : List Nat} (h : List.Forall₂ R l l')
    (h' : List.Forall₂ R k k') : l' = k' ↔ l = k :=
  ⟨fun heq => List.left_unique_forall₂' hm.left h (heq ▸ h'),
    fun heq => List.right_unique_forall₂' hm.right h (heq ▸ h')⟩

theorem agree_subtractEach (hvisit : VisitsAlike R₀ bound bound' visit visit') {nodes nodes' : List Nat}
    (h₀ : ∀ i j, R₀ i j → R i j) (ht : Twins s.arena s'.arena R) (hd : Remembered R s.done s'.done)
    (hn : List.Forall₂ R nodes nodes')
    (hrank : ∀ i ∈ nodes, s.arena.rank i < bound) (hrank' : ∀ i ∈ nodes', s'.arena.rank i < bound') :
    Grows s.arena (subtractEach visit nodes s).2.arena ∧ Grows s'.arena (subtractEach visit' nodes' s').2.arena ∧
      ∃ R', (∀ i j, R i j → R' i j) ∧
        Twins (subtractEach visit nodes s).2.arena (subtractEach visit' nodes' s').2.arena R' ∧
        Remembered R' (subtractEach visit nodes s).2.done (subtractEach visit' nodes' s').2.done ∧
        List.Forall₂ R' (subtractEach visit nodes s).1 (subtractEach visit' nodes' s').1 := by
  induction nodes generalizing s s' nodes' R with
  | nil =>
    cases hn
    exact ⟨.refl _, .refl _, R, fun _ _ => id, ht, hd, .nil⟩
  | cons i nodes ih =>
    cases hn with
    | @cons _ i' _ nodes' hi hn =>
      obtain ⟨hgrow, hgrow', R₁, hR₁, ht₁, hd₁, hr₁⟩ :=
        hvisit h₀ ht hd hi (hrank i List.mem_cons_self) (hrank' i' List.mem_cons_self)
      have hsame : ∀ j ∈ nodes, (visit i s).2.arena.rank j < bound := fun j hj => by
        obtain ⟨j', -, hjj'⟩ := exists_related hn hj
        rw [hgrow.rank_eq ht.left.wellFormed (ht.mirrors.lt hjj').1]
        exact hrank j (List.mem_cons_of_mem _ hj)
      have hsame' : ∀ j' ∈ nodes', (visit' i' s').2.arena.rank j' < bound' := fun j' hj' => by
        obtain ⟨j, -, hjj'⟩ := exists_related hn.flip hj'
        rw [hgrow'.rank_eq ht.right.wellFormed (ht.mirrors.lt hjj').2]
        exact hrank' j' (List.mem_cons_of_mem _ hj')
      obtain ⟨hgrow₂, hgrow₂', R₂, hR₂, ht₂, hd₂, hrest⟩ :=
        ih (fun i j h => hR₁ i j (h₀ i j h)) ht₁ hd₁ (hn.imp hR₁) hsame hsame'
      exact ⟨hgrow.trans hgrow₂, hgrow'.trans hgrow₂', R₂, fun i j h => hR₂ i j (hR₁ i j h), ht₂, hd₂,
        .cons (hR₂ _ _ hr₁) hrest⟩

theorem agree_subtractFrom (hvisit : VisitsAlike R₀ bound bound' visit visit') (h₀ : ∀ i j, R₀ i j → R i j)
    (ht : Twins s.arena s'.arena R) (hd : Remembered R s.done s'.done) (h : R i i') (hrank : s.arena.rank i ≤ bound)
    (hrank' : s'.arena.rank i' ≤ bound') :
    SubtractAgree R s s' (subtractFrom visit i s) (subtractFrom visit' i' s') := by
  have hop : ∀ j, (s.arena.recipe i).Names j → s.arena.rank j < bound := fun j hj =>
    Nat.lt_of_lt_of_le (ht.left.wellFormed.rank_lt hj) hrank
  have hop' : ∀ j, (s'.arena.recipe i').Names j → s'.arena.rank j < bound' := fun j hj =>
    Nat.lt_of_lt_of_le (ht.right.wellFormed.rank_lt hj) hrank'
  have halike := ht.mirrors.recipe h
  rw [subtractFrom, subtractFrom]
  generalize s.arena.recipe i = r at halike hop
  generalize s'.arena.recipe i' = r' at halike hop'
  cases halike with
  | built => exact .self ht hd h
  | opened => exact .self ht hd h
  | @closed e e' he =>
    obtain ⟨hgrow, hgrow', R', hR, ht', hd', hrest⟩ := hvisit h₀ ht hd he (hop e rfl) (hop' e' rfl)
    refine ⟨hgrow, hgrow', R', hR, ht', hd', ?_⟩
    dsimp only
    simp only [ht'.mirrors.eq_iff hrest (hR _ _ he)]
    split
    · exact hR _ _ h
    · exact hrest
  | @union members members' hmembers =>
    obtain ⟨hgrow, hgrow', R', hR, ht', hd', hrest⟩ :=
      agree_subtractEach hvisit h₀ ht hd hmembers (fun m hm => hop m hm) fun m hm => hop' m hm
    dsimp only
    simp only [forall₂_eq_iff ht'.mirrors hrest (hmembers.imp hR)]
    split
    · exact ⟨hgrow, hgrow', R', hR, ht', hd', hR _ _ h⟩
    · exact (agree_unionAll ht' hrest).subtract hR hd' hgrow hgrow'
  | @annotate inner inner' added hinner =>
    obtain ⟨hgrow, hgrow', R', hR, ht', hd', hrest⟩ := hvisit h₀ ht hd hinner (hop inner rfl) (hop' inner' rfl)
    dsimp only
    simp only [ht'.mirrors.eq_iff hrest (hR _ _ hinner)]
    split
    · exact ⟨hgrow, hgrow', R', hR, ht', hd', hR _ _ h⟩
    · exact (agree_annotate ht' hrest).subtract hR hd' hgrow hgrow'
  | @prefer w w' l l' hw hl =>
    obtain ⟨hgrow₁, hgrow₁', R₁, hR₁, ht₁, hd₁, hrest₁⟩ :=
      hvisit h₀ ht hd hw (hop w (.inl rfl)) (hop' w' (.inl rfl))
    have hrank₁ : (visit w s).2.arena.rank l < bound := by
      rw [hgrow₁.rank_eq ht.left.wellFormed (ht.mirrors.lt hl).1]
      exact hop l (.inr rfl)
    have hrank₁' : (visit' w' s').2.arena.rank l' < bound' := by
      rw [hgrow₁'.rank_eq ht.right.wellFormed (ht.mirrors.lt hl).2]
      exact hop' l' (.inr rfl)
    obtain ⟨hgrow₂, hgrow₂', R₂, hR₂, ht₂, hd₂, hrest₂⟩ :=
      hvisit (fun i j h => hR₁ i j (h₀ i j h)) ht₁ hd₁ (hR₁ _ _ hl) hrank₁ hrank₁'
    have hR : ∀ i j, R i j → R₂ i j := fun i j hij => hR₂ i j (hR₁ i j hij)
    have hgrow := hgrow₁.trans hgrow₂
    have hgrow' := hgrow₁'.trans hgrow₂'
    have hwinner := hR₂ _ _ hrest₁
    dsimp only
    simp only [ht₂.mirrors.eq_iff hwinner (hR _ _ hw), ht₂.mirrors.eq_iff hrest₂ (hR _ _ hl)]
    split
    · exact ⟨hgrow, hgrow', R₂, hR, ht₂, hd₂, hR _ _ h⟩
    · exact (agree_prefer ht₂ hwinner hrest₂).subtract hR hd₂ hgrow hgrow'

theorem Mirrors.contains_eq (hm : Mirrors g g' R) (h₀ : ∀ i j, R₀ i j → R i j) (hs : SameSet R₀ removed removed')
    (h : R i i') : removed'.contains i' = removed.contains i := by
  rw [Bool.eq_iff_iff, SortedSet.contains_iff, SortedSet.contains_iff]
  constructor
  · intro hi'
    obtain ⟨j, hj, hR⟩ := hs.back i' hi'
    rwa [hm.left h (h₀ j i' hR)]
  · intro hi
    obtain ⟨j', hj', hR⟩ := hs.forth i hi
    rwa [hm.right h (h₀ i j' hR)]

theorem visitsAlike_subtractWithin (hs : SameSet R₀ removed removed') (fuel fuel' : Nat) :
    VisitsAlike R₀ fuel fuel' (subtractWithin removed fuel) (subtractWithin removed' fuel') := by
  induction fuel generalizing fuel' with
  | zero => exact fun _ _ _ _ hrank => absurd hrank (Nat.not_lt_zero _)
  | succ fuel ih =>
    cases fuel' with
    | zero => exact fun _ _ _ _ _ hrank' => absurd hrank' (Nat.not_lt_zero _)
    | succ fuel' =>
      intro R s s' i i' h₀ ht hd h hrank hrank'
      rw [subtractWithin, subtractWithin, ht.mirrors.contains_eq h₀ hs h]
      split
      · exact .self ht hd ht.mirrors.nothing
      have hlookup := ht.mirrors.lookup hd h
      generalize s.done.lookup i = r? at hlookup
      generalize s'.done.lookup i' = r'? at hlookup
      cases hlookup with
      | some hr => exact .self ht hd hr
      | none =>
        have hfrom : SubtractAgree R { s with done := (i, i) :: s.done } { s' with done := (i', i') :: s'.done }
            (subtractFrom (subtractWithin removed fuel) i { s with done := (i, i) :: s.done })
            (subtractFrom (subtractWithin removed' fuel') i' { s' with done := (i', i') :: s'.done }) :=
          agree_subtractFrom (ih fuel') h₀ ht (.cons ⟨h, h⟩ hd) h (Nat.le_of_lt_succ hrank)
            (Nat.le_of_lt_succ hrank')
        obtain ⟨hgrow, hgrow', R', hR, ht', hd', hresult⟩ := hfrom
        exact ⟨hgrow, hgrow', R', hR, ht', .cons ⟨hR _ _ h, hresult⟩ hd', hresult⟩

theorem agree_subtract (ht : Twins g g' R) (ha : R a a') (hb : R b b') :
    Agree g g' R (g.subtract a b) (g'.subtract a' b') := by
  have hrank := Nat.lt_succ_of_lt (ht.left.wellFormed.rank_lt_size a)
  have hrank' := Nat.lt_succ_of_lt (ht.right.wellFormed.rank_lt_size a')
  obtain ⟨hgrow, hgrow', R', hR, ht', -, hresult⟩ :=
    @visitsAlike_subtractWithin R _ _ (ht.sameSet_members hb) (g.size + 1) (g'.size + 1) R ⟨[], g⟩ ⟨[], g'⟩ a a'
      (fun _ _ => id) ht .nil ha hrank hrank'
  exact ⟨hgrow, hgrow', R', hR, ht', hresult⟩

end Subtract

section CloseLoop

variable {body body' tail tail' : Nat} {policy : LoopPolicy}

theorem agree_entryOf (ht : Twins g g' R) (ha : R a a') (hb : R b b') :
    Agree g g' R (g.entryOf policy a b) (g'.entryOf policy a' b') := by
  cases policy with
  | plain => exact agree_union ht ha hb
  | extending => exact agree_prefer ht ha hb
  | limiting => exact agree_prefer ht hb ha

/-- Closing a loop that leaves the one arena free of cycles leaves the other one free of them. -/
theorem twins_closeLoop (ht : Twins g g' R) (hr : g.recipe m = .marker none) (hm : R m m') (hbody : R body body')
    (htail : R tail tail') (hacyclic : ∀ i, ¬ TransGen (g.closeLoop m body tail policy).2.Operand i i) :
    ∃ R', (∀ i j, R i j → R' i j) ∧
      Twins (g.closeLoop m body tail policy).2 (g'.closeLoop m' body' tail' policy).2 R' ∧
      R' (g.closeLoop m body tail policy).1 (g'.closeLoop m' body' tail' policy).1 := by
  have honce := agree_subtract ht hbody hm
  obtain ⟨R₁, hR₁, ht₁, hresult₁⟩ := honce.twins
  have hentry := @agree_entryOf _ _ R₁ _ _ _ _ policy ht₁ hresult₁ (hR₁ _ _ htail)
  obtain ⟨R₂, hR₂, ht₂, hresult₂⟩ := hentry.twins
  have hr₂ := ((honce.grows.trans hentry.grows).recipe_eq m (ht.mirrors.lt hm).1).trans hr
  have hm₂ := hR₂ _ _ (hR₁ _ _ hm)
  have hr₂' := ht₂.mirrors.opened hm₂ hr₂
  have htidy := (settled_closeLoop ht.left.tidy hr (ht.mirrors.lt hbody).1 (ht.mirrors.lt htail).1 policy).tidy
  have htidy' := (settled_closeLoop ht.right.tidy (ht.mirrors.opened hm hr) (ht.mirrors.lt hbody).2
    (ht.mirrors.lt htail).2 policy).tidy
  rw [closeLoop_eq] at hacyclic htidy ⊢
  rw [closeLoop_eq] at htidy' ⊢
  dsimp only at hacyclic htidy htidy' ⊢
  generalize (g.subtract body m).2.entryOf policy (g.subtract body m).1 tail = r at *
  generalize (g'.subtract body' m').2.entryOf policy (g'.subtract body' m').1 tail' = r' at *
  have hmirrors : Mirrors { r.2.setEntry m r.1 with bodies := (m, body) :: r.2.bodies }
      { r'.2.setEntry m' r'.1 with bodies := (m', body') :: r'.2.bodies } R₂ :=
    (ht₂.mirrors.setEntry hr₂ hm₂ hresult₂).of_slots rfl rfl
  have hacyclic' := hmirrors.acyclic htidy' hacyclic
  have hclose : Write r.2 (r.2.setEntry m r.1) := .close hr₂ (ht₂.mirrors.lt hresult₂).1
  have hclose' : Write r'.2 (r'.2.setEntry m' r'.1) := .close hr₂' (ht₂.mirrors.lt hresult₂).2
  have hwell : WellFormed { r.2.setEntry m r.1 with bodies := (m, body) :: r.2.bodies } :=
    (hclose.wellFormed ht₂.left.wellFormed hacyclic).of_slots rfl
  have hwell' : WellFormed { r'.2.setEntry m' r'.1 with bodies := (m', body') :: r'.2.bodies } :=
    (hclose'.wellFormed ht₂.right.wellFormed hacyclic').of_slots rfl
  exact ⟨R₂, fun i j hij => hR₂ i j (hR₁ i j hij), ⟨⟨hwell, htidy⟩, ⟨hwell', htidy'⟩, hmirrors⟩, hresult₂⟩

end CloseLoop

end Polymatch.Arena
