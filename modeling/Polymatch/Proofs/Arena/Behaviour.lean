import Polymatch.Proofs.Arena.Subtraction
import Polymatch.Proofs.Pattern.Behaviour

/-! # Behaviours of nodes

Reading a symbol, a node leads along a path to a leaf with an edge for it, and on
to the target of the edge. The marks of the path are those of the edge too. The
operations of the arena act on the behaviours of nodes as they are meant to.
-/

namespace Polymatch.Arena

variable {g g' h : Arena} {blocked blocked' : Nat → Prop} {a b i j m x : Nat} {marks : Marks}

/-- Reading `x`, the node leads to `j` with some marks. -/
def Leads (g : Arena) (blocked : Nat → Prop) (i x : Nat) (marks : Marks) (j : Nat) : Prop :=
  ∃ l before k, Path g blocked (Stops g blocked (some x)) i l before ∧ g.linkAt? l x = some k ∧
    marks = k.marks ∪ before ∧ j = k.next

/-- The node may end the input with some marks. -/
def Ends (g : Arena) (blocked : Nat → Prop) (i : Nat) (marks : Marks) : Prop :=
  ∃ l before n, Path g blocked (Stops g blocked none) i l before ∧ g.content? l = some n ∧
    n.isAccepting = true ∧ marks = n.exit ∪ before

/-- The ways from a node through a whole input; only the first step is blocked. -/
def Spells (g : Arena) : (Nat → Prop) → Nat → Trace → Marks → Prop
  | blocked, i, [], e => Ends g blocked i e
  | blocked, i, (x, marks) :: t, e =>
    ∃ j, Leads g blocked i x marks j ∧ Spells g (fun _ => False) j t e

def behaviour (g : Arena) (blocked : Nat → Prop) (i : Nat) : Behaviour where
  opens b := g.recipe b = .marker none ∧ Reaches g blocked i b
  binds := Binds g blocked i
  spells := Spells g blocked i

/-- Nodes with the same paths behave in the same way. -/
theorem behaviour_congr
    (hpaths : ∀ (on? : Option Nat) (l : Nat) (marks : Marks),
      Path g blocked (Stops g blocked on?) i l marks ↔
        Path g blocked' (Stops g blocked' on?) j l marks) :
    behaviour g blocked i = behaviour g blocked' j := by
  have hreaches : ∀ l, Reaches g blocked i l ↔ Reaches g blocked' j l :=
    fun l => exists_congr fun marks => hpaths none l marks
  ext x e
  · simp only [behaviour, hreaches]
  · simp only [behaviour, Binds, hreaches]
  · simp only [behaviour]
    cases x with
    | nil => simp only [Spells, Ends, hpaths]
    | cons a t => simp only [Spells, Leads, hpaths]

/-- A blocked node has no paths. -/
theorem not_path_of_blocked {stops : Nat → Prop} {l : Nat} (hb : blocked i) :
    ¬ Path g blocked stops i l marks := by
  intro hp
  cases hp <;> exact absurd hb ‹_›

theorem behaviour_eq_silent
    (hpaths : ∀ (on? : Option Nat) (l : Nat) (marks : Marks),
      ¬ Path g blocked (Stops g blocked on?) i l marks) : behaviour g blocked i = .silent := by
  have hreaches : ∀ l, ¬ Reaches g blocked i l := fun l ⟨marks, hp⟩ => hpaths none l marks hp
  ext x e
  · simp [behaviour, Behaviour.silent, hreaches]
  · simp [behaviour, Behaviour.silent, Binds, hreaches]
  · simp only [behaviour, Behaviour.silent, iff_false]
    cases x with
    | nil => simp [Spells, Ends, hpaths]
    | cons a t => simp [Spells, Leads, hpaths]

theorem behaviour_blocked (hb : blocked i) : behaviour g blocked i = .silent :=
  behaviour_eq_silent fun _ _ _ => not_path_of_blocked hb

/-- A closed marker behaves as its entry does. -/
theorem behaviour_entry (hr : g.recipe i = .marker (some j)) (hb : ¬ blocked i) :
    behaviour g blocked i = behaviour g blocked j :=
  behaviour_congr fun on? l marks => by rw [path_entry hr, and_iff_right hb]

theorem behaviour_nothing (hg : g.WellFormed) (hs : Settles g h) :
    behaviour h blocked nothing = .silent :=
  behaviour_eq_silent fun _ _ _ => path_nothing hg hs

/-- A node with the paths of two nodes behaves as either of them. -/
theorem behaviour_either
    (hpaths : ∀ (on? : Option Nat) (l : Nat) (marks : Marks),
      Path g blocked (Stops g blocked on?) i l marks ↔
        Path g blocked (Stops g blocked on?) a l marks ∨ Path g blocked (Stops g blocked on?) b l marks) :
    behaviour g blocked i = .either (behaviour g blocked a) (behaviour g blocked b) := by
  have hreaches : ∀ l, Reaches g blocked i l ↔ Reaches g blocked a l ∨ Reaches g blocked b l := by
    intro l
    have hl := hpaths none l
    simp only [Reaches, ← exists_or]
    exact exists_congr hl
  ext x e
  · simp only [behaviour, Behaviour.either, hreaches, and_or_left]
  · simp only [behaviour, Behaviour.either, Binds, hreaches, or_and_right, exists_or]
  · simp only [behaviour, Behaviour.either]
    cases x with
    | nil => simp only [Spells, Ends, hpaths, or_and_right, exists_or]
    | cons a t => simp only [Spells, Leads, hpaths, or_and_right, exists_or]

theorem behaviour_union (hg : g.WellFormed) (ha : a < g.size) (hb : b < g.size)
    (hs : Settles (g.union a b).2 h) (hp : Pending g blocked) :
    behaviour h blocked (g.union a b).1 = .either (behaviour h blocked a) (behaviour h blocked b) :=
  behaviour_either fun _ _ _ => path_union_iff hg ha hb hs hp

theorem behaviour_unionAll_from (hg : g.WellFormed) {nodes : List Nat} (ha : a < g.size)
    (hn : ∀ i ∈ nodes, i < g.size)
    (hs : Settles (nodes.foldl (fun r i => r.2.union r.1 i) (a, g)).2 h) (hp : Pending g blocked) :
    behaviour h blocked (nodes.foldl (fun r i => r.2.union r.1 i) (a, g)).1 =
      .either (behaviour h blocked a) (.oneOf (nodes.map (behaviour h blocked))) := by
  induction nodes generalizing a g with
  | nil => exact (Behaviour.either_silent _).symm
  | cons i nodes ih =>
    have hi := hn i List.mem_cons_self
    have hu := grown_union hg ha hi
    have hn' : ∀ j ∈ nodes, j < (g.union a i).2.size := fun j hj =>
      Nat.lt_of_lt_of_le (hn j (List.mem_cons_of_mem _ hj)) hu.grows.size_le
    have hsu := (grown_unionAll_from hu.wellFormed hu.lt hn').grows.trans_settles hs
    rw [List.foldl_cons, ih hu.wellFormed hu.lt hn' hs (hp.grows hu.grows.toGrows),
      behaviour_union hg ha hi hsu hp, Behaviour.either_assoc]
    rfl

theorem behaviour_unionAll (hg : g.WellFormed) {nodes : List Nat} (hn : ∀ i ∈ nodes, i < g.size)
    (hs : Settles (g.unionAll nodes).2 h) (hp : Pending g blocked) :
    behaviour h blocked (g.unionAll nodes).1 = .oneOf (nodes.map (behaviour h blocked)) := by
  have hsg := (grown_unionAll hg hn).grows.trans_settles hs
  rw [unionAll] at hs ⊢
  rw [behaviour_unionAll_from hg hg.nothing_lt hn hs hp, behaviour_nothing hg hsg,
    Behaviour.silent_either]

theorem behaviour_prefer (hg : g.WellFormed) (ha : a < g.size) (hb : b < g.size)
    (hs : Settles (g.prefer a b).2 h) (hp : Pending g blocked) :
    behaviour h blocked (g.prefer a b).1 = .prefer (behaviour h blocked a) (behaviour h blocked b) := by
  have hpaths : ∀ (on? : Option Nat) (l : Nat) (marks : Marks),
      Path h blocked (Stops h blocked on?) (g.prefer a b).1 l marks ↔
        Path h blocked (Stops h blocked on?) a l marks ∨
          ¬ Stops h blocked on? a ∧ Path h blocked (Stops h blocked on?) b l marks :=
    fun _ _ _ => path_prefer_iff hg ha hb hs hp
  have hreaches : ∀ l, Reaches h blocked (g.prefer a b).1 l ↔ Reaches h blocked a l ∨ Reaches h blocked b l := by
    intro l
    have hl := fun marks => hpaths none l marks
    simp only [Stops, not_false_eq_true, true_and] at hl
    simp only [Reaches, ← exists_or]
    exact exists_congr hl
  ext x e
  · simp only [behaviour, Behaviour.prefer, hreaches, and_or_left]
  · simp only [behaviour, Behaviour.prefer, Binds, hreaches, or_and_right, exists_or]
  · simp only [behaviour, Behaviour.prefer]
    cases x with
    | nil => simp [Spells, Ends, hpaths, Stops, or_and_right, exists_or]
    | cons c t =>
      simp only [Spells, Leads, hpaths, Stops, or_and_right, exists_or, List.head?_cons,
        Option.mem_some_iff, forall_eq', and_assoc, exists_and_left]

theorem behaviour_annotate {added : Marks} (hg : g.WellFormed) (hi : i < g.size)
    (hs : Settles (g.annotate i added).2 h) (hp : Pending g blocked) :
    behaviour h blocked (g.annotate i added).1 = (behaviour h blocked i).overlay added := by
  have hpaths : ∀ (on? : Option Nat) (l : Nat) (marks : Marks),
      Path h blocked (Stops h blocked on?) (g.annotate i added).1 l marks ↔
        ∃ before, Path h blocked (Stops h blocked on?) i l before ∧ marks = before ∪ added :=
    fun _ _ _ => path_annotate_iff hg hi hs hp
  have hreaches : ∀ l, Reaches h blocked (g.annotate i added).1 l ↔ Reaches h blocked i l := by
    intro l
    have hl := fun marks => hpaths none l marks
    constructor
    · rintro ⟨marks, hm⟩
      obtain ⟨before, hb, -⟩ := (hl marks).1 hm
      exact ⟨before, hb⟩
    · rintro ⟨before, hb⟩
      exact ⟨_, (hl _).2 ⟨before, hb, rfl⟩⟩
  ext x e
  · simp only [behaviour, Behaviour.overlay, hreaches]
  · simp only [behaviour, Behaviour.overlay, Binds, hreaches]
  · simp only [behaviour, Behaviour.overlay]
    cases x with
    | nil =>
      simp only [Spells, Ends, hpaths]
      constructor
      · rintro ⟨l, _, n, ⟨before, hb, rfl⟩, hn, hacc, rfl⟩
        exact ⟨_, ⟨l, before, n, hb, hn, hacc, rfl⟩, (SortedSet.union_assoc ..).symm⟩
      · rintro ⟨_, ⟨l, before, n, hb, hn, hacc, rfl⟩, rfl⟩
        exact ⟨l, _, n, ⟨before, hb, rfl⟩, hn, hacc, SortedSet.union_assoc ..⟩
    | cons c t =>
      simp only [Spells, Leads, hpaths]
      constructor
      · rintro ⟨j, ⟨l, _, k, ⟨before, hb, rfl⟩, hk, hm, hj⟩, ht⟩
        exact ⟨_, ⟨j, ⟨l, before, k, hb, hk, rfl, hj⟩, ht⟩, hm.trans (SortedSet.union_assoc ..).symm⟩
      · rintro ⟨_, ⟨j, ⟨l, before, k, hb, hk, rfl, hj⟩, ht⟩, hm⟩
        exact ⟨j, ⟨l, _, k, ⟨before, hb, rfl⟩, hk, hm.trans (SortedSet.union_assoc ..), hj⟩, ht⟩

/-- What a node built outright does, read off its content. -/
def contentBehaviour (g : Arena) (n : Node) : Behaviour where
  opens _ := False
  binds x := ∃ k, n.edges.link? x = some k
  spells
    | [], e => n.isAccepting = true ∧ e = n.exit
    | (x, M) :: t, e => ∃ k, n.edges.link? x = some k ∧ M = k.marks ∧ Spells g (fun _ => False) k.next t e

theorem behaviour_of_content {n : Node} (hr : g.recipe i = .built) (hne : i ≠ nothing) (hb : ¬ blocked i)
    (hc : g.content? i = some n) : behaviour g blocked i = g.contentBehaviour n := by
  have hpath : ∀ (stops : Nat → Prop) l marks, Path g blocked stops i l marks ↔ l = i ∧ marks = ∅ := by
    intro stops l marks
    rw [path_built hr, and_iff_right hb, and_iff_right hne]
  have hlink : ∀ x, g.linkAt? i x = n.edges.link? x := fun x => by rw [linkAt?, hc, Option.bind_some]
  ext x e
  · simp only [behaviour, contentBehaviour, Reaches, hpath, iff_false]
    rintro ⟨hopen, marks, rfl, -⟩
    cases hr.symm.trans hopen
  · simp only [behaviour, contentBehaviour, Binds, Reaches, hpath]
    constructor
    · rintro ⟨l, k, ⟨_, rfl, -⟩, hk⟩
      exact ⟨k, (hlink x).symm.trans hk⟩
    · rintro ⟨k, hk⟩
      exact ⟨i, k, ⟨_, rfl, rfl⟩, (hlink x).trans hk⟩
  · simp only [behaviour, contentBehaviour]
    cases x with
    | nil =>
      simp only [Spells, Ends, hpath]
      constructor
      · rintro ⟨l, _, n', ⟨rfl, rfl⟩, hn', hacc, rfl⟩
        obtain rfl := Option.some.inj (hc.symm.trans hn')
        exact ⟨hacc, SortedSet.union_empty _⟩
      · rintro ⟨hacc, rfl⟩
        exact ⟨i, ∅, n, ⟨rfl, rfl⟩, hc, hacc, (SortedSet.union_empty _).symm⟩
    | cons a t =>
      simp only [Spells, Leads, hpath]
      constructor
      · rintro ⟨j, ⟨l, _, k, ⟨rfl, rfl⟩, hk, hm, rfl⟩, ht⟩
        exact ⟨k, (hlink _).symm.trans hk, hm.trans (SortedSet.union_empty _), ht⟩
      · rintro ⟨k, hk, hm, ht⟩
        exact ⟨k.next, ⟨i, ∅, k, ⟨rfl, rfl⟩, (hlink _).trans hk, hm.trans (SortedSet.union_empty _).symm, rfl⟩, ht⟩

/-- A node that was added keeps its content. -/
theorem Settles.added {n : Node} (hs : Settles (g.add n).2 h) :
    h.recipe g.size = .built ∧ h.content? g.size = some n := by
  have hr : (g.add n).2.recipe g.size = .built := recipe_push_self ..
  have hc : (g.add n).2.content? g.size = some n := content?_push_self ..
  have hlt : g.size < (g.add n).2.size := by
    rw [add, size_push]
    exact Nat.lt_succ_self _
  exact ⟨(hs.recipe_eq _ hlt (by simp [hr])).trans hr, (hs.content_eq _ hr (by simp [hc])).trans hc⟩

theorem behaviour_edge {σ : Alphabet} {ranges : List Interval} {next : Nat}
    (ho : classOverlap? σ ranges = none) (hg : g.WellFormed)
    (hs : Settles (g.edge σ ranges next marks).2 h) (hp : Pending g blocked) :
    behaviour h blocked (g.edge σ ranges next marks).1 =
      .consume (fun x => Interval.covers ranges x = true ∧ x < σ.limit) marks
        (behaviour h (fun _ => False) next) := by
  have hlink : ∀ (x : Nat) (k : Link),
      (EdgeMap.ofDisjoint (classEdges σ ranges next marks)).link? x = some k ↔
        (Interval.covers ranges x = true ∧ x < σ.limit) ∧ k = ⟨next, .singleton 0, marks⟩ :=
    fun _ _ => link?_classEdges ho
  simp only [edge] at hs ⊢
  split
  · rename_i hempty
    rw [if_pos hempty] at hs
    -- an empty class covers no ordinal
    have hnone : ∀ x, ¬ (Interval.covers ranges x = true ∧ x < σ.limit) := by
      intro x hx
      obtain ⟨e, he, -⟩ := EdgeMap.link?_eq_some.1 ((hlink x _).2 ⟨hx, rfl⟩)
      rw [EdgeMap.isEmpty, List.isEmpty_iff] at hempty
      simp [hempty] at he
    rw [behaviour_nothing hg hs]
    ext x e
    · exact Iff.rfl
    · exact iff_of_false id (hnone x)
    · cases x with
      | nil => exact Iff.rfl
      | cons a t => exact iff_of_false id fun hc => hnone _ hc.1
  · rename_i hempty
    rw [if_neg hempty] at hs
    have hb : ¬ blocked g.size := fun hb => Nat.lt_irrefl g.size (hp.lt hb)
    have hne : g.size ≠ nothing := Nat.ne_of_gt (Nat.lt_of_lt_of_le (by decide) hg.two_le)
    obtain ⟨hr, hc⟩ := hs.added
    refine (behaviour_of_content hr hne hb hc).trans ?_
    ext x e
    · exact Iff.rfl
    · simp only [contentBehaviour, Behaviour.consume, hlink, exists_and_left, exists_eq, and_true]
    · cases x with
      | nil => exact iff_of_false (fun hacc => Bool.false_ne_true hacc.1) id
      | cons a t =>
        simp only [contentBehaviour, Behaviour.consume, hlink, and_assoc, exists_and_left, exists_eq_left]
        exact Iff.rfl

end Polymatch.Arena
