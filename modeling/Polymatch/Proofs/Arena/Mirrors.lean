import Polymatch.Proofs.Arena.Renaming
import Polymatch.Proofs.Arena.Unions

/-! # Mirrored arenas

An arena mirrors another one if it has a counterpart of each of its nodes, and besides them only
unions. The counterparts of atomic nodes are in the same order, so that sets of them are listed
alike. Canonical nodes and members of counterparts are counterparts again.
-/

namespace Polymatch.Arena

open Relation (TransGen ReflTransGen)

variable {g g' h h' : Arena} {R : Nat → Nat → Prop} {i i' j j' : Nat} {members members' : IdSet}

/-- `g'` has a counterpart of each node of `g`, and besides them only unions. -/
structure Mirrors (g g' : Arena) (R : Nat → Nat → Prop) : Prop extends Matches g g' R where
  lt : ∀ {i i' : Nat}, R i i' → i < g.size ∧ i' < g'.size
  total : ∀ i < g.size, ∃ i', R i i'
  onto : ∀ i' < g'.size, (∃ i, R i i') ∨ ∃ members, g'.recipe i' = .union members
  left : Relator.LeftUnique R
  right : Relator.RightUnique R
  order : ∀ {i i' j j' : Nat}, R i i' → R j j' → g.Atomic i → g.Atomic j → i < j → i' < j'
  nothing : R nothing nothing

/-- The sets consist of counterparts. -/
structure SameSet (R : Nat → Nat → Prop) (members members' : IdSet) : Prop where
  forth : ∀ i ∈ members, ∃ i' ∈ members', R i i'
  back : ∀ i' ∈ members', ∃ i ∈ members, R i i'

theorem SameSet.union {others others' : IdSet} (h : SameSet R members members') (h' : SameSet R others others') :
    SameSet R (members ∪ others) (members' ∪ others') := by
  refine ⟨fun i hi => ?_, fun i' hi' => ?_⟩
  · rcases SortedSet.mem_union.1 hi with hi | hi
    · exact (h.forth i hi).imp fun _ hR => ⟨SortedSet.mem_union.2 (.inl hR.1), hR.2⟩
    · exact (h'.forth i hi).imp fun _ hR => ⟨SortedSet.mem_union.2 (.inr hR.1), hR.2⟩
  · rcases SortedSet.mem_union.1 hi' with hi' | hi'
    · exact (h.back i' hi').imp fun _ hR => ⟨SortedSet.mem_union.2 (.inl hR.1), hR.2⟩
    · exact (h'.back i' hi').imp fun _ hR => ⟨SortedSet.mem_union.2 (.inr hR.1), hR.2⟩

/-- Ascending lists of counterparts are listed alike if the counterparts are in the same order. -/
theorem forall₂_of_ascending {l l' : List Nat} (hl : l.Pairwise (· < ·)) (hl' : l'.Pairwise (· < ·))
    (hleft : Relator.LeftUnique R) (hright : Relator.RightUnique R)
    (horder : ∀ i ∈ l, ∀ j ∈ l, ∀ i' j', R i i' → R j j' → i < j → i' < j')
    (hforth : ∀ i ∈ l, ∃ i' ∈ l', R i i') (hback : ∀ i' ∈ l', ∃ i ∈ l, R i i') : List.Forall₂ R l l' := by
  induction l generalizing l' with
  | nil =>
    cases l' with
    | nil => exact .nil
    | cons b l' =>
      obtain ⟨i, hi, -⟩ := hback b List.mem_cons_self
      cases hi
  | cons a l ih =>
    obtain ⟨ha, hl⟩ := List.pairwise_cons.1 hl
    cases l' with
    | nil =>
      obtain ⟨i', hi', -⟩ := hforth a List.mem_cons_self
      cases hi'
    | cons b l' =>
      obtain ⟨hb, hl'⟩ := List.pairwise_cons.1 hl'
      -- the least elements are counterparts: otherwise something lies before the least one
      have hab : R a b := by
        obtain ⟨i, hi, hib⟩ := hback b List.mem_cons_self
        obtain ⟨i', hi', hai'⟩ := hforth a List.mem_cons_self
        rcases List.mem_cons.1 hi with rfl | hil
        · exact hib
        rcases List.mem_cons.1 hi' with rfl | hil'
        · exact hai'
        have := horder a List.mem_cons_self i hi i' b hai' hib (ha i hil)
        exact absurd (hb i' hil') (Nat.lt_asymm this)
      refine .cons hab (ih hl hl' (fun i hi j hj => ?_) (fun i hi => ?_) fun i' hi' => ?_)
      · exact horder i (List.mem_cons_of_mem _ hi) j (List.mem_cons_of_mem _ hj)
      · obtain ⟨i', hi', hR⟩ := hforth i (List.mem_cons_of_mem _ hi)
        refine ⟨i', (List.mem_cons.1 hi').resolve_left ?_, hR⟩
        rintro rfl
        exact Nat.lt_irrefl a (hleft hR hab ▸ ha i hi)
      · obtain ⟨i, hi, hR⟩ := hback i' (List.mem_cons_of_mem _ hi')
        refine ⟨i, (List.mem_cons.1 hi).resolve_left ?_, hR⟩
        rintro rfl
        exact Nat.lt_irrefl b (hright hR hab ▸ hb i' hi')

section Flattens

theorem Matches.flattens (hm : Matches g g' R) (hf : g.Flattens i j) (h : R i i') :
    ∃ j', R j j' ∧ g'.Flattens i' j' := by
  induction hf generalizing i' with
  | atom ha hopen hne =>
    refine ⟨i', h, .atom ((hm.atomic_iff h).1 ha) (fun e' he' => ?_) fun hi => hne ((hm.nothing_iff h).2 hi)⟩
    obtain ⟨e, he, -⟩ := hm.flip.entry h he'
    exact hopen e he
  | member hr hmem _ ih =>
    obtain ⟨members', hr', hmembers⟩ := hm.union h hr
    obtain ⟨m', hm', hR⟩ := exists_related hmembers hmem
    obtain ⟨j', hj, hf'⟩ := ih hR
    exact ⟨j', hj, .member hr' hm' hf'⟩
  | entry hr _ ih =>
    obtain ⟨e', hr', hR⟩ := hm.entry h hr
    obtain ⟨j', hj, hf'⟩ := ih hR
    exact ⟨j', hj, .entry hr' hf'⟩

theorem Matches.canonical (hm : Matches g g' R) (hg : g.Founded) (hg' : g'.Founded) (h : R i i') :
    R (g.canonical i) (g'.canonical i') := by
  induction i using canonical_induct hg generalizing i' with
  | entry i e hr ih =>
    obtain ⟨e', hr', he⟩ := hm.entry h hr
    rw [canonical_entry hg hr, canonical_entry hg' hr']
    exact ih he
  | other i hopen =>
    rw [canonical_of_ne hopen, canonical_of_ne fun e' he' => ?_]
    · exact h
    · obtain ⟨e, he, -⟩ := hm.flip.entry h he'
      exact hopen e he

theorem Matches.sameSet_members (hm : Matches g g' R) (ht : g.Tidy) (ht' : g'.Tidy) (hf : g.Founded) (hf' : g'.Founded)
    (h : R i i') : SameSet R (g.members i) (g'.members i') := by
  refine ⟨fun j hj => ?_, fun j' hj' => ?_⟩
  · obtain ⟨j', hR, hflat⟩ := hm.flattens ((mem_members_iff ht hf).1 hj) h
    exact ⟨j', (mem_members_iff ht' hf').2 hflat, hR⟩
  · obtain ⟨j, hR, hflat⟩ := hm.flip.flattens ((mem_members_iff ht' hf').1 hj') h
    exact ⟨j, (mem_members_iff ht hf).2 hflat, hR⟩

end Flattens

namespace Mirrors

theorem eq_iff (hm : Mirrors g g' R) (h : R i i') (h' : R j j') : i' = j' ↔ i = j :=
  ⟨fun hij => hm.left h (hij ▸ h'), fun hij => hm.right h (hij ▸ h')⟩

theorem forall₂_members (hm : Mirrors g g' R) (hs : SameSet R members members')
    (ha : ∀ m ∈ members, g.Atomic m) : List.Forall₂ R members.toList members'.toList :=
  forall₂_of_ascending members.ascending members'.ascending hm.left hm.right
    (fun i hi j hj _ _ hR hR' => hm.order hR hR' (ha i hi) (ha j hj)) hs.forth hs.back

theorem includes_eq (hm : Mirrors g g' R) {others others' : IdSet} (h : SameSet R members members')
    (h' : SameSet R others others') : members'.includes others' = members.includes others := by
  rw [Bool.eq_iff_iff, SortedSet.includes_iff, SortedSet.includes_iff]
  constructor
  · intro hall i hi
    obtain ⟨i', hi', hR⟩ := h'.forth i hi
    obtain ⟨j, hj, hR'⟩ := h.back i' (hall i' hi')
    rwa [hm.left hR hR']
  · intro hall i' hi'
    obtain ⟨i, hi, hR⟩ := h'.back i' hi'
    obtain ⟨j', hj', hR'⟩ := h.forth i (hall i hi)
    rwa [hm.right hR hR']

/-- Nodes that others derive from are counterparts: the unions besides them are named nowhere. -/
theorem named (hm : Mirrors g g' R) (ht' : g'.Tidy) (hop : g'.Operand i' j') : ∃ j, R j j' := by
  rcases hm.onto i' hop.lt_size with ⟨i, h⟩ | ⟨members, hr⟩
  · obtain ⟨j, hj, -⟩ := hm.flip.operand h hop
    exact ⟨j, hj⟩
  · have hmem : j' ∈ members := by rwa [Operand, hr] at hop
    refine (hm.onto j' (ht'.operand_lt i' j' hop)).resolve_right ?_
    rintro ⟨others, hr'⟩
    exact (ht'.flat i' members hr j' hmem).2 others hr'

theorem transGen (hm : Mirrors g g' R) (h : R i i') (hop : TransGen g'.Operand i' j') :
    ∃ j, R j j' ∧ TransGen g.Operand i j := by
  induction hop with
  | single hop =>
    obtain ⟨j, hj, hop⟩ := hm.flip.operand h hop
    exact ⟨j, hj, .single hop⟩
  | tail _ hop ih =>
    obtain ⟨k, hk, hik⟩ := ih
    obtain ⟨j, hj, hop⟩ := hm.flip.operand hk hop
    exact ⟨j, hj, hik.tail hop⟩

theorem acyclic (hm : Mirrors g g' R) (ht' : g'.Tidy) (hacyclic : ∀ i, ¬ TransGen g.Operand i i) (i' : Nat) :
    ¬ TransGen g'.Operand i' i' := by
  intro hcycle
  obtain ⟨k, -, hop⟩ := TransGen.tail'_iff.1 hcycle
  obtain ⟨i, h⟩ := hm.named ht' hop
  obtain ⟨j, hj, hij⟩ := hm.transGen h hcycle
  exact hacyclic i (hm.left h hj ▸ hij)

theorem of_slots (hm : Mirrors g g' R) (hs : h.slots = g.slots) (hs' : h'.slots = g'.slots) : Mirrors h h' R := by
  obtain ⟨slots, bodies, ambiguous⟩ := g
  obtain ⟨slots', bodies', ambiguous'⟩ := g'
  obtain ⟨_, _, _⟩ := h
  obtain ⟨_, _, _⟩ := h'
  obtain rfl := hs
  obtain rfl := hs'
  exact ⟨⟨hm.recipe, hm.nothing_iff, hm.content⟩, hm.lt, hm.total, hm.onto, hm.left, hm.right, hm.order, hm.nothing⟩

/-- The arena goes on to mirror the other one when it grows by unions only. -/
theorem grows (hm : Mirrors g g' R) (hgrow : Grows g' h)
    (hunion : ∀ i', g'.size ≤ i' → i' < h.size → ∃ members, h.recipe i' = .union members) : Mirrors g h R where
  recipe hR := by
    rw [hgrow.recipe_eq _ (hm.lt hR).2]
    exact hm.recipe hR
  nothing_iff := hm.nothing_iff
  content hR hr := by
    obtain ⟨n, n', hn, hn', halike⟩ := hm.content hR hr
    refine ⟨n, n', hn, ?_, halike⟩
    rw [hgrow.content_eq _ (hm.built hR hr) (by simp [hn']), hn']
  lt hR := ⟨(hm.lt hR).1, Nat.lt_of_lt_of_le (hm.lt hR).2 hgrow.size_le⟩
  total := hm.total
  onto i' hi' := by
    rcases Nat.lt_or_ge i' g'.size with hlt | hge
    · rw [hgrow.recipe_eq i' hlt]
      exact hm.onto i' hlt
    · exact .inr (hunion i' hge hi')
  left := hm.left
  right := hm.right
  order := hm.order
  nothing := hm.nothing

end Mirrors

section Adjoin

variable {s : Slot} {b m m' e e' : Nat}

/-- One more pair of counterparts. -/
def Adjoined (R : Nat → Nat → Prop) (a b i j : Nat) : Prop := R i j ∨ i = a ∧ j = b

theorem Mirrors.matches_adjoin (hm : Mirrors g g' R) (hgrow : Grows g' h) (hfresh : ∀ i, ¬ R i b)
    (hrecipe : s.recipe.Alike R (h.recipe b))
    (hcontent : s.recipe = .built → ∃ n n', s.node? = some n ∧ h.content? b = some n' ∧ n.Alike R n') :
    Matches (g.push s).2 h (Adjoined R g.size b) := by
  have hold : ∀ {i i'}, R i i' → (g.push s).2.recipe i = g.recipe i := fun hR => recipe_push_of_lt _ _ (hm.lt hR).1
  refine ⟨?_, ?_, ?_⟩
  · rintro i i' (hR | ⟨rfl, rfl⟩)
    · rw [hold hR, hgrow.recipe_eq i' (hm.lt hR).2]
      exact (hm.recipe hR).mono fun _ _ => .inl
    · rw [recipe_push_self]
      exact hrecipe.mono fun _ _ => .inl
  · rintro i i' (hR | ⟨rfl, rfl⟩)
    · exact hm.nothing_iff hR
    · refine iff_of_false (Nat.ne_of_gt (hm.lt hm.nothing).1) ?_
      rintro rfl
      exact hfresh _ hm.nothing
  · rintro i i' (hR | ⟨rfl, rfl⟩) hr
    · rw [hold hR] at hr
      obtain ⟨n, n', hn, hn', halike⟩ := hm.content hR hr
      refine ⟨n, n', (content?_push_of_lt _ _ (hm.lt hR).1).trans hn, ?_, halike.mono fun _ _ => .inl⟩
      rw [hgrow.content_eq i' (hm.built hR hr) (by simp [hn']), hn']
    · rw [recipe_push_self] at hr
      obtain ⟨n, n', hn, hn', halike⟩ := hcontent hr
      exact ⟨n, n', (content?_push_self ..).trans hn, hn', halike.mono fun _ _ => .inl⟩

/-- A node is added, and gets a counterpart: one that is added too, or a union that was there before. -/
theorem Mirrors.adjoin (hm : Mirrors g g' R) (hgrow : Grows g' h) (hb : b < h.size) (hfresh : ∀ i, ¬ R i b)
    (hrecipe : s.recipe.Alike R (h.recipe b))
    (hcontent : s.recipe = .built → ∃ n n', s.node? = some n ∧ h.content? b = some n' ∧ n.Alike R n')
    (honto : ∀ i', g'.size ≤ i' → i' < h.size → i' = b)
    (hlast : (∀ members, s.recipe ≠ .union members) → g'.size ≤ b) :
    Mirrors (g.push s).2 h (Adjoined R g.size b) := by
  have hlt : ∀ {i i'}, R i i' → i < g.size := fun hR => (hm.lt hR).1
  refine ⟨hm.matches_adjoin hgrow hfresh hrecipe hcontent, ?_, ?_, ?_, ?_, ?_, ?_, .inl hm.nothing⟩
  · rw [size_push]
    rintro i i' (hR | ⟨rfl, rfl⟩)
    · exact ⟨Nat.lt_succ_of_lt (hlt hR), Nat.lt_of_lt_of_le (hm.lt hR).2 hgrow.size_le⟩
    · exact ⟨Nat.lt_succ_self _, hb⟩
  · intro i hi
    rcases push_cases g s hi with ⟨hi, -⟩ | ⟨rfl, -⟩
    · exact (hm.total i hi).imp fun _ => .inl
    · exact ⟨b, .inr ⟨rfl, rfl⟩⟩
  · intro i' hi'
    rcases Nat.lt_or_ge i' g'.size with hlt' | hge
    · rw [hgrow.recipe_eq i' hlt']
      exact (hm.onto i' hlt').imp_left fun ⟨i, hR⟩ => ⟨i, .inl hR⟩
    · exact .inl ⟨g.size, .inr ⟨rfl, honto i' hge hi'⟩⟩
  · rintro i j k (hR | ⟨rfl, rfl⟩) (hR' | ⟨rfl, hk⟩)
    · exact hm.left hR hR'
    · exact absurd (hk ▸ hR) (hfresh i)
    · exact absurd hR' (hfresh j)
    · rfl
  · rintro i j k (hR | ⟨rfl, rfl⟩) (hR' | ⟨hi, rfl⟩)
    · exact hm.right hR hR'
    · exact absurd (hlt hR) (hi ▸ Nat.lt_irrefl _)
    · exact absurd (hlt hR') (Nat.lt_irrefl _)
    · rfl
  · rintro i i' j j' (hR | ⟨rfl, rfl⟩) (hR' | ⟨rfl, rfl⟩) ha ha' hij
    · rw [Atomic, recipe_push_of_lt _ _ (hlt hR)] at ha
      rw [Atomic, recipe_push_of_lt _ _ (hlt hR')] at ha'
      exact hm.order hR hR' ha ha' hij
    · rw [Atomic, recipe_push_self] at ha'
      exact Nat.lt_of_lt_of_le (hm.lt hR).2 (hlast ha')
    · exact absurd hij (Nat.lt_asymm (hlt hR'))
    · exact absurd hij (Nat.lt_irrefl _)

/-- Both arenas get a node. -/
theorem Mirrors.push (hm : Mirrors g g' R) {s' : Slot} (hrecipe : s.recipe.Alike R s'.recipe)
    (hcontent : s.recipe = .built → ∃ n n', s.node? = some n ∧ s'.node? = some n' ∧ n.Alike R n') :
    Mirrors (g.push s).2 (g'.push s').2 (Adjoined R g.size g'.size) := by
  refine hm.adjoin (grows_push ..) ?_ (fun i hR => Nat.lt_irrefl _ (hm.lt hR).2) ?_ ?_ ?_ fun _ => Nat.le_refl _
  · rw [size_push]
    exact Nat.lt_succ_self _
  · rwa [recipe_push_self]
  · rwa [content?_push_self]
  · intro i' hge hi'
    rw [size_push] at hi'
    omega

/-- Both arenas close a loop. -/
theorem Mirrors.setEntry (hm : Mirrors g g' R) (hr : g.recipe m = .marker none) (hR : R m m') (he : R e e') :
    Mirrors (g.setEntry m e) (g'.setEntry m' e') R := by
  have hr' := hm.opened hR hr
  have hself := recipe_setEntry_self g m e (hm.lt hR).1
  have hself' := recipe_setEntry_self g' m' e' (hm.lt hR).2
  have hother : ∀ {i i'}, R i i' → i ≠ m →
      (g.setEntry m e).recipe i = g.recipe i ∧ (g'.setEntry m' e').recipe i' = g'.recipe i' := fun hii' hi =>
    ⟨recipe_setEntry_of_ne _ _ _ hi, recipe_setEntry_of_ne _ _ _ fun hi' => hi ((hm.eq_iff hii' hR).1 hi')⟩
  have hatomic : ∀ {i}, (g.setEntry m e).Atomic i → g.Atomic i := fun {i} ha => by
    by_cases hi : i = m
    · rw [hi, Atomic, hr]
      exact fun _ => Recipe.noConfusion
    · rwa [Atomic, recipe_setEntry_of_ne _ _ _ hi] at ha
  refine ⟨⟨fun {i i'} hii' => ?_, hm.nothing_iff, fun {i i'} hii' hb => ?_⟩, ?_, ?_, fun i' hi' => ?_, hm.left,
    hm.right, fun hii' hjj' ha ha' => hm.order hii' hjj' (hatomic ha) (hatomic ha'), hm.nothing⟩
  · by_cases hi : i = m
    · subst hi
      rw [hm.right hii' hR, hself, hself']
      exact .closed he
    · rw [(hother hii' hi).1, (hother hii' hi).2]
      exact hm.recipe hii'
  · rw [content?_setEntry, content?_setEntry]
    refine hm.content hii' ?_
    rwa [(hother hii' fun hi => ?_).1] at hb
    rw [hi, hself] at hb
    cases hb
  · rw [size_setEntry, size_setEntry]
    exact hm.lt
  · rw [size_setEntry]
    exact hm.total
  · rw [size_setEntry] at hi'
    refine (hm.onto i' hi').imp_right fun ⟨members, hu⟩ => ⟨members, ?_⟩
    rw [recipe_setEntry_of_ne _ _ _, hu]
    rintro rfl
    cases hr'.symm.trans hu

/-- The arena of the two fixed nodes mirrors itself. -/
theorem mirrors_new : Mirrors new new fun i j => i = j ∧ i < new.size := by
  have hlone : ∀ (accept : IdSet) {R : Nat → Nat → Prop}, Node.Alike R ⟨∅, accept, ∅⟩ ⟨∅, accept, ∅⟩ := fun accept =>
    ⟨rfl, rfl, fun _ => (.none : Option.Rel _ none none)⟩
  refine ⟨⟨?_, ?_, ?_⟩, ?_, fun i hi => ⟨i, rfl, hi⟩, fun i hi => .inl ⟨i, rfl, hi⟩, ?_, ?_, ?_, rfl, by decide⟩
  · intro i i' _
    rw [recipe_new, recipe_new]
    exact .built
  · rintro i _ ⟨rfl, -⟩
    exact Iff.rfl
  · rintro i _ ⟨rfl, hi⟩ -
    match i, hi with
    | 0, _ => exact ⟨_, _, rfl, rfl, hlone _⟩
    | 1, _ => exact ⟨_, _, rfl, rfl, hlone _⟩
  · rintro i _ ⟨rfl, hi⟩
    exact ⟨hi, hi⟩
  · rintro i j _ ⟨rfl, -⟩ ⟨rfl, -⟩
    rfl
  · rintro i _ _ ⟨rfl, -⟩ ⟨rfl, -⟩
    rfl
  · rintro i _ j _ ⟨rfl, -⟩ ⟨rfl, -⟩ - - hij
    exact hij

end Adjoin

end Polymatch.Arena
