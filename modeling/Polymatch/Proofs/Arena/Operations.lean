import Polymatch.Proofs.Arena.Members

/-! # Deriving nodes

What the operations of an arena promise of the node that they answer. The arena
only grows, and the paths of the node are those of its operands, in every arena
that is reached from there: the paths of both sides for a union, the paths with
more marks for an annotation, and for a preference those of the loser only where
the winner does not stop them.
-/

namespace Polymatch.Arena

variable {g g' h : Arena} {blocked stops : Nat → Prop} {a b i j l : Nat} {marks : Marks}

/-- An operation on `g` has answered a node of an arena that `g` grows into. -/
structure Grown (g : Arena) (result : Nat × Arena) : Prop where
  wellFormed : result.2.WellFormed
  grows : Builds g result.2
  lt : result.1 < result.2.size

theorem Grown.self (hg : g.WellFormed) (hi : i < g.size) : Grown g (i, g) := ⟨hg, .refl g, hi⟩

theorem Grown.derive (hg : g.WellFormed) {r : Recipe} (hfits : g.Fits { recipe := r, node? := none })
    (hm : r ≠ .marker none) : Grown g (g.derive r) :=
  ⟨hg.derive hfits, builds_derive hfits hm, derive_lt g r⟩

theorem Grown.after {result : Nat × Arena} (h : Grown g' result) (hg : Builds g g') : Grown g result :=
  ⟨h.wellFormed, hg.trans h.grows, h.lt⟩

theorem grows_marker (g : Arena) : Grows g g.marker.2 := grows_push ..

theorem writes_marker (g : Arena) : Writes g g.marker.2 := .single (.push (fits_marker g))

theorem marker_lt (g : Arena) : g.marker.1 < g.marker.2.size := by
  rw [Arena.marker, size_push]
  exact Nat.lt_succ_self _

theorem blank_marker (hg : Blank g) : Blank g.marker.2 := hg.push fun _ => rfl

theorem recipe_marker (g : Arena) : g.marker.2.recipe g.size = .marker none := recipe_push_self ..

section Class

variable {σ : Alphabet} {ranges : List Interval} {next : Nat}

theorem classEdges_apart (ho : classOverlap? σ ranges = none) (next : Nat) (marks : Marks) :
    (classEdges σ ranges next marks).Pairwise Edge.Apart := by
  rw [classOverlap?] at ho
  split at ho
  · cases ho
  · rename_i m hm
    have ha := Edge.pairwise_apart_iff.1 (EdgeMap.apart_of_ofEdges hm)
    rw [Edge.pairwise_apart_iff]
    simpa [classEdges, Edge.group, Function.comp_def] using ha

theorem link?_classEdges (ho : classOverlap? σ ranges = none) {x : Nat} {k : Link} :
    (EdgeMap.ofDisjoint (classEdges σ ranges next marks)).link? x = some k ↔
      (Interval.covers ranges x = true ∧ x < σ.limit) ∧ k = ⟨next, .singleton 0, marks⟩ := by
  rw [EdgeMap.link?_ofDisjoint (classEdges_apart ho next marks), Interval.covers_iff]
  constructor
  · rintro ⟨e, he, hx, rfl⟩
    obtain ⟨r, hr, rfl⟩ := List.mem_map.1 he
    rw [Edge.contains_iff] at hx
    simp only [Nat.lt_min] at hx
    exact ⟨⟨⟨r, hr, hx.1, hx.2.1⟩, hx.2.2⟩, rfl⟩
  · rintro ⟨⟨⟨r, hr, hlo, hhi⟩, hx⟩, rfl⟩
    refine ⟨_, List.mem_map_of_mem hr, Edge.contains_iff.2 ⟨hlo, ?_⟩, rfl⟩
    exact Nat.lt_min.2 ⟨hhi, hx⟩

theorem within_classEdges (hn : next < g.size) :
    Node.Within ⟨EdgeMap.ofDisjoint (classEdges σ ranges next marks), ∅, ∅⟩ g.size := by
  refine ⟨fun e he => ?_, fun i hi => (SortedSet.not_mem_empty i hi).elim, fun _ => rfl⟩
  obtain ⟨f, hf, hfe⟩ := EdgeMap.exists_of_mem_ofDisjoint he
  obtain ⟨r, -, rfl⟩ := List.mem_map.1 hf
  have hlink : e.link = ⟨next, .singleton 0, marks⟩ := hfe.symm
  refine ⟨?_, congrArg Link.routes hlink⟩
  rw [show e.next = next from congrArg Link.next hlink]
  exact hn

theorem grown_edge (hg : g.WellFormed) (hn : next < g.size) : Grown g (g.edge σ ranges next marks) := by
  simp only [edge]
  split
  · exact .self hg hg.nothing_lt
  · have hfits : g.Fits
        { recipe := .built, node? := some ⟨.ofDisjoint (classEdges σ ranges next marks), ∅, ∅⟩ } := by
      refine ⟨fun _ hj => hj.elim, fun _ h => (nomatch h), fun _ => Option.some_ne_none _, fun n hnode => ?_⟩
      obtain rfl := Option.some.inj hnode
      exact (within_classEdges hn).mono (Nat.le_succ _)
    refine ⟨hg.push hfits, builds_push hfits (by simp) (absurd rfl), ?_⟩
    simp only [add, size_push]
    exact Nat.lt_succ_self _

end Class

section Union

theorem grown_unionOf (hg : g.WellFormed) {members : IdSet} (hm : ∀ m ∈ members, m < g.size)
    (ha : ∀ m ∈ members, g.Atomic m) : Grown g (g.unionOf members) := by
  rw [unionOf]
  split
  · exact .self hg hg.nothing_lt
  · rename_i i hi
    exact .self hg (hm i (by simp [SortedSet.mem_def, hi]))
  · refine .derive hg (fits_derived (by simp) hm fun members' h => ?_) (by simp)
    cases h
    exact ha

theorem path_unionOf (hg : g.WellFormed) {members : IdSet} (hs : Settles (g.unionOf members).2 h)
    (hb : Pending g blocked) : Path h blocked stops (g.unionOf members).1 l marks ↔
      ∃ m ∈ members, Path h blocked stops m l marks := by
  rw [unionOf] at hs ⊢
  split at hs
  · rename_i hnil
    simp [SortedSet.mem_def, hnil, path_nothing hg hs]
  · rename_i i hi
    simp [SortedSet.mem_def, hi]
  · have hr := hs.recipe_of (recipe_derive g (.union members)) (by simp) (by simp)
    rw [path_union hr, and_iff_right]
    exact (hb.grows (grows_derive g (.union members))).not_blocked (by simp [recipe_derive])

theorem grown_union (hg : g.WellFormed) (ha : a < g.size) (hb : b < g.size) : Grown g (g.union a b) := by
  have hca := canonical_lt hg ha
  have hcb := canonical_lt hg hb
  simp only [union]
  split
  · exact .self hg hca
  split
  · exact .self hg hcb
  split
  · exact .self hg hca
  split
  · exact .self hg hcb
  · refine grown_unionOf hg (fun m hm => ?_) fun m hm => ?_
    · rcases SortedSet.mem_union.1 hm with hm | hm
      · exact members_lt hg hca hm
      · exact members_lt hg hcb hm
    · exact (SortedSet.mem_union.1 hm).elim (members_atomic hg) (members_atomic hg)

/-- A union has the paths of both sides. -/
theorem path_union_iff (hg : g.WellFormed) (ha : a < g.size) (hb : b < g.size)
    (hs : Settles (g.union a b).2 h) (hp : Pending g blocked) :
    Path h blocked stops (g.union a b).1 l marks ↔
      Path h blocked stops a l marks ∨ Path h blocked stops b l marks := by
  have hsg := (grown_union hg ha hb).grows.trans_settles hs
  rw [← path_canonical hg hsg hp a, ← path_canonical hg hsg hp b]
  simp only [union] at hs ⊢
  generalize g.canonical a = a at *
  generalize g.canonical b = b at *
  have hmembers : ∀ i, Path h blocked stops i l marks ↔
      ∃ m ∈ g.members i, Path h blocked stops m l marks := path_members hg hsg hp
  split
  · rename_i heq
    simp only [Bool.or_eq_true, decide_eq_true_eq] at heq
    rcases heq with rfl | rfl
    · exact (or_self _).symm ▸ Iff.rfl
    · simp [path_nothing hg hsg]
  split
  · rename_i heq
    simp [heq, path_nothing hg hsg]
  split
  · rename_i hin
    rw [SortedSet.includes_iff] at hin
    refine ⟨.inl, ?_⟩
    rintro (h | h)
    · exact h
    · obtain ⟨m, hm, hpm⟩ := (hmembers b).1 h
      exact (hmembers a).2 ⟨m, hin m hm, hpm⟩
  split
  · rename_i hin
    rw [SortedSet.includes_iff] at hin
    refine ⟨.inr, ?_⟩
    rintro (h | h)
    · obtain ⟨m, hm, hpm⟩ := (hmembers a).1 h
      exact (hmembers b).2 ⟨m, hin m hm, hpm⟩
    · exact h
  · rename_i h1 h2 h3 h4
    rw [if_neg h1, if_neg h2, if_neg h3, if_neg h4] at hs
    rw [path_unionOf hg hs hp, hmembers a, hmembers b]
    simp only [SortedSet.mem_union, or_and_right, exists_or]

end Union

section Annotate

theorem grown_annotateWithin {fuel : Nat} (hg : g.WellFormed) (hi : i < g.size) :
    Grown g (annotateWithin fuel g i marks) := by
  induction fuel generalizing i marks with
  | zero => exact .self hg hi
  | succ fuel ih =>
    have hc := canonical_lt hg hi
    simp only [annotateWithin]
    generalize g.canonical i = c at hc
    split
    · exact .self hg hc
    · split
      · rename_i deeper existing hr
        exact ih (hg.operand_lt c deeper (operand_inner hr))
      · exact .derive hg (fits_derived (by simp) (by simpa using hc) (by simp)) (by simp)

theorem path_annotateWithin {fuel : Nat} {added : Marks} (hg : g.WellFormed)
    (hfuel : g.rank i < fuel) (hi : i < g.size)
    (hs : Settles (annotateWithin fuel g i added).2 h) (hb : Pending g blocked) :
    Path h blocked stops (annotateWithin fuel g i added).1 l marks ↔
      ∃ before, Path h blocked stops i l before ∧ marks = before ∪ added := by
  induction fuel generalizing i added with
  | zero => omega
  | succ fuel ih =>
    have hsg := (grown_annotateWithin hg hi).grows.trans_settles hs
    have hc := canonical_lt hg hi
    have hle := rank_canonical_le hg.founded i
    simp only [← path_canonical hg hsg hb i, annotateWithin] at hs ⊢
    generalize g.canonical i = c at *
    split
    · rename_i heq
      simp only [Bool.or_eq_true, SortedSet.isEmpty_iff, decide_eq_true_eq] at heq
      rcases heq with hnone | rfl
      · obtain rfl : added = ∅ := SortedSet.ext_mem fun m => by simp [hnone]
        simp
      · simp [path_nothing hg hsg]
    · rename_i hne
      rw [if_neg hne] at hs
      split
      · rename_i deeper existing hr
        simp only [hr] at hs
        have hop := operand_inner hr
        rw [ih (by have := hg.rank_lt hop; omega) (hg.operand_lt c deeper hop) hs]
        simp only [path_annotate (hsg.recipe_of hr (by simp) (by simp)),
          hb.not_blocked (by simp [hr] : g.recipe c ≠ .marker none), not_false_eq_true, true_and]
        constructor
        · rintro ⟨before, hp, rfl⟩
          exact ⟨_, ⟨before, hp, rfl⟩, (SortedSet.union_assoc ..).symm⟩
        · rintro ⟨_, ⟨before, hp, rfl⟩, rfl⟩
          exact ⟨before, hp, SortedSet.union_assoc ..⟩
      · rename_i hother
        have hs' : Settles (g.derive (.annotate c added)).2 h := by
          split at hs
          · rename_i deeper existing hr
            exact absurd hr (hother deeper existing)
          · exact hs
        have hr := hs'.recipe_of (recipe_derive g (.annotate c added)) (by simp) (by simp)
        rw [path_annotate hr, and_iff_right]
        exact (hb.grows (grows_derive g (.annotate c added))).not_blocked (by simp [recipe_derive])

theorem grown_annotate (hg : g.WellFormed) (hi : i < g.size) : Grown g (g.annotate i marks) :=
  grown_annotateWithin hg hi

/-- An annotation has the paths of its operand, with more marks. -/
theorem path_annotate_iff {added : Marks} (hg : g.WellFormed) (hi : i < g.size)
    (hs : Settles (g.annotate i added).2 h) (hb : Pending g blocked) :
    Path h blocked stops (g.annotate i added).1 l marks ↔
      ∃ before, Path h blocked stops i l before ∧ marks = before ∪ added :=
  path_annotateWithin hg (Nat.lt_succ_of_lt (hg.rank_lt_size i)) hi hs hb

end Annotate

section Prefer

theorem grown_prefer (hg : g.WellFormed) (ha : a < g.size) (hb : b < g.size) :
    Grown g (g.prefer a b) := by
  have hca := canonical_lt hg ha
  have hcb := canonical_lt hg hb
  simp only [prefer]
  split
  · exact .self hg hca
  split
  · exact .self hg hcb
  · refine .derive hg (fits_derived (by simp) ?_ (by simp)) (by simp)
    rintro j (rfl | rfl)
    · exact hca
    · exact hcb

/-- What the edge of a leaf on an ordinal says. -/
def linkAt? (g : Arena) (l x : Nat) : Option Link := (g.content? l).bind (·.edges.link? x)

/-- Some leaf of the node has an edge on the ordinal. -/
def Binds (g : Arena) (blocked : Nat → Prop) (i x : Nat) : Prop :=
  ∃ l k, Reaches g blocked i l ∧ g.linkAt? l x = some k

/-- A winner stops the loser on the ordinals that it binds; nothing is stopped at the end of the
input. -/
def Stops (g : Arena) (blocked : Nat → Prop) : Option Nat → Nat → Prop
  | none, _ => False
  | some x, i => Binds g blocked i x

theorem stops_canonical (hg : g.WellFormed) (hs : Settles g h) (hp : Pending g blocked) (on? : Option Nat)
    (i : Nat) : Stops h blocked on? (g.canonical i) ↔ Stops h blocked on? i := by
  cases on? with
  | none => exact Iff.rfl
  | some x => simp only [Stops, Binds, Reaches, path_canonical hg hs hp]

theorem not_stops_nothing (hg : g.WellFormed) (hs : Settles g h) (on? : Option Nat) :
    ¬ Stops h blocked on? nothing := by
  cases on? with
  | none => exact id
  | some x =>
    rintro ⟨l, k, ⟨marks, hp⟩, -⟩
    exact path_nothing hg hs hp

/-- A preference has the paths of the winner, and those of the loser where the winner does not
stop them. -/
theorem path_prefer_iff (hg : g.WellFormed) (ha : a < g.size) (hb : b < g.size)
    (hs : Settles (g.prefer a b).2 h) (hp : Pending g blocked) {on? : Option Nat} :
    Path h blocked (Stops h blocked on?) (g.prefer a b).1 l marks ↔
      Path h blocked (Stops h blocked on?) a l marks ∨
        ¬ Stops h blocked on? a ∧ Path h blocked (Stops h blocked on?) b l marks := by
  have hsg := (grown_prefer hg ha hb).grows.trans_settles hs
  rw [← path_canonical hg hsg hp a, ← path_canonical hg hsg hp b, ← stops_canonical hg hsg hp on? a]
  simp only [prefer] at hs ⊢
  generalize g.canonical a = a at *
  generalize g.canonical b = b at *
  split
  · rename_i heq
    simp only [Bool.or_eq_true, decide_eq_true_eq] at heq
    rcases heq with rfl | rfl
    · exact ⟨.inl, fun h => h.elim id And.right⟩
    · simp [path_nothing hg hsg]
  split
  · rename_i heq
    simp [heq, path_nothing hg hsg, not_stops_nothing hg hsg]
  · rename_i h1 h2
    rw [if_neg h1, if_neg h2] at hs
    have hr := hs.recipe_of (recipe_derive g (.prefer a b)) (by simp) (by simp)
    rw [path_prefer hr, and_iff_right]
    exact (hp.grows (grows_derive g (.prefer a b))).not_blocked (by simp [recipe_derive])

end Prefer

section UnionAll

theorem grown_unionAll_from (hg : g.WellFormed) {nodes : List Nat} (ha : a < g.size)
    (hn : ∀ i ∈ nodes, i < g.size) :
    Grown g (nodes.foldl (fun r i => r.2.union r.1 i) (a, g)) := by
  induction nodes generalizing a g with
  | nil => exact .self hg ha
  | cons i nodes ih =>
    have hu := grown_union hg ha (hn i List.mem_cons_self)
    exact (ih hu.wellFormed hu.lt fun j hj =>
      Nat.lt_of_lt_of_le (hn j (List.mem_cons_of_mem _ hj)) hu.grows.size_le).after hu.grows

theorem path_unionAll_from (hg : g.WellFormed) {nodes : List Nat} (ha : a < g.size)
    (hn : ∀ i ∈ nodes, i < g.size)
    (hs : Settles (nodes.foldl (fun r i => r.2.union r.1 i) (a, g)).2 h) (hp : Pending g blocked) :
    Path h blocked stops (nodes.foldl (fun r i => r.2.union r.1 i) (a, g)).1 l marks ↔
      Path h blocked stops a l marks ∨ ∃ i ∈ nodes, Path h blocked stops i l marks := by
  induction nodes generalizing a g with
  | nil => simp
  | cons i nodes ih =>
    have hi := hn i List.mem_cons_self
    have hu := grown_union hg ha hi
    have hn' : ∀ j ∈ nodes, j < (g.union a i).2.size := fun j hj =>
      Nat.lt_of_lt_of_le (hn j (List.mem_cons_of_mem _ hj)) hu.grows.size_le
    have hsu := (grown_unionAll_from hu.wellFormed hu.lt hn').grows.trans_settles hs
    rw [List.foldl_cons, ih hu.wellFormed hu.lt hn' hs (hp.grows hu.grows.toGrows),
      path_union_iff hg ha hi hsu hp]
    simp only [List.mem_cons, exists_eq_or_imp, or_assoc]

theorem grown_unionAll (hg : g.WellFormed) {nodes : List Nat} (hn : ∀ i ∈ nodes, i < g.size) :
    Grown g (g.unionAll nodes) :=
  grown_unionAll_from hg hg.nothing_lt hn

/-- A union of several nodes has the paths of all of them. -/
theorem path_unionAll_iff (hg : g.WellFormed) {nodes : List Nat} (hn : ∀ i ∈ nodes, i < g.size)
    (hs : Settles (g.unionAll nodes).2 h) (hp : Pending g blocked) :
    Path h blocked stops (g.unionAll nodes).1 l marks ↔
      ∃ i ∈ nodes, Path h blocked stops i l marks := by
  have hsg := (grown_unionAll hg hn).grows.trans_settles hs
  rw [unionAll] at hs ⊢
  rw [path_unionAll_from hg hg.nothing_lt hn hs hp, or_iff_right (path_nothing hg hsg)]

end UnionAll

end Polymatch.Arena
