import Polymatch.Proofs.Arena.Freeze

/-! # Frozen automata

The states of a frozen automaton stand for nodes. From a state, the automaton
accepts what its node spells, and unless it is ambiguous, every way to spell an
input bears the marks of the edges and of the exit that the run meets.
-/

namespace Polymatch.Arena

variable {g h : Arena} {a : Automaton} {R : Nat → Nat → Prop} {s i start : Nat} {marks : Marks}

/-- `R` relates the states of an automaton to the nodes that they stand for. -/
structure Realizes (h : Arena) (a : Automaton) (R : Nat → Nat → Prop) : Prop where
  stuck : ∀ {s i x j : Nat} {marks : Marks}, R s i → (a.node s).edges.link? x = none →
    ¬ Leads h (fun _ => False) i x marks j
  link : ∀ {s i x : Nat} {k : Link}, R s i → (a.node s).edges.link? x = some k → 0 ∈ k.routes ∧
    ∃ t, R k.next t ∧ Covers h t fun j => ∃ marks, Leads h (fun _ => False) i x marks j
  accept : ∀ {s i : Nat}, R s i →
    (0 ∈ (a.node s).accept ↔ ∃ marks, Ends h (fun _ => False) i marks)
  marks : a.ambiguous = false → ∀ {s i x j : Nat} {k : Link} {marks : Marks}, R s i →
    (a.node s).edges.link? x = some k → Leads h (fun _ => False) i x marks j → marks = k.marks
  exit : a.ambiguous = false → ∀ {s i : Nat} {marks : Marks}, R s i →
    Ends h (fun _ => False) i marks → marks = (a.node s).exit

namespace Realizes

theorem follow? (hr : Realizes h a R) (hs : R s i) (x : Nat) :
    a.follow? 0 s x = (a.node s).edges.link? x := by
  rw [Automaton.follow?]
  cases hk : (a.node s).edges.link? x with
  | none => rfl
  | some k => rw [Option.filter_some, if_pos (SortedSet.contains_iff.2 (hr.link hs hk).1)]

/-- A state accepts what its node spells. -/
theorem walk?_iff (hr : Realizes h a R) (hs : R s i) {w : List Nat} :
    (∃ s', a.walk? 0 s w = some s' ∧ 0 ∈ (a.node s').accept) ↔
      ∃ t marks, t.map Prod.fst = w ∧ Spells h (fun _ => False) i t marks := by
  induction w generalizing s i with
  | nil => simp [Automaton.walk?, Spells, hr.accept hs]
  | cons x w ih =>
    rw [Automaton.walk?, hr.follow? hs]
    cases hk : (a.node s).edges.link? x with
    | none =>
      simp only [Option.bind_none, reduceCtorEq, false_and, exists_false, false_iff]
      rintro ⟨_ | ⟨⟨y, M⟩, t⟩, marks, ht, hsp⟩
      · cases ht
      · obtain ⟨rfl, -⟩ := List.cons.inj ht
        obtain ⟨j, hl, -⟩ := hsp
        exact hr.stuck hs hk hl
    | some k =>
      obtain ⟨-, t, hkt, hc⟩ := hr.link hs hk
      rw [Option.bind_some, ih hkt]
      simp only [hc.spells]
      constructor
      · rintro ⟨tr, marks, rfl, j, ⟨M, hl⟩, hsp⟩
        exact ⟨(x, M) :: tr, marks, rfl, j, hl, hsp⟩
      · rintro ⟨_ | ⟨⟨y, M⟩, tr⟩, marks, ht, hsp⟩
        · cases ht
        · obtain ⟨rfl, rfl⟩ := List.cons.inj ht
          obtain ⟨j, hl, hsp⟩ := hsp
          exact ⟨tr, marks, rfl, j, ⟨M, hl⟩, hsp⟩

/-- Without ambiguity, what a node spells bears the marks that the run meets. -/
theorem trace? (hr : Realizes h a R) (ha : a.ambiguous = false) (hs : R s i) {t : Trace}
    (hsp : Spells h (fun _ => False) i t marks) :
    ∃ s', a.trace? 0 s (t.map Prod.fst) = some (t, s') ∧ 0 ∈ (a.node s').accept ∧
      (a.node s').exit = marks := by
  induction t generalizing s i with
  | nil => exact ⟨s, rfl, (hr.accept hs).2 ⟨marks, hsp⟩, (hr.exit ha hs hsp).symm⟩
  | cons y t ih =>
    obtain ⟨x, M⟩ := y
    obtain ⟨j, hl, hsp⟩ := hsp
    cases hk : (a.node s).edges.link? x with
    | none => exact absurd hl (hr.stuck hs hk)
    | some k =>
      obtain ⟨-, n, hkn, hc⟩ := hr.link hs hk
      obtain ⟨s', htr, hacc⟩ := ih hkn (hc.spells.2 ⟨j, ⟨M, hl⟩, hsp⟩)
      refine ⟨s', ?_, hacc⟩
      rw [List.map_cons, Automaton.trace?, hr.follow? hs, hk, Option.bind_some, htr, Option.map_some,
        hr.marks ha hs hk hl]

end Realizes

/-- A frozen automaton: its start stands for a node, it has a single pattern, and only accepting
states have an exit. -/
structure Frozen (h : Arena) (start : Nat) (a : Automaton) (R : Nat → Nat → Prop) : Prop where
  wellFormed : a.WellFormed
  patterns : a.patterns = 1
  exit_eq : ∀ n ∈ a.nodes, n.accept = ∅ → n.exit = ∅
  realizes : Realizes h a R
  start : ∃ t, R a.start t ∧ Covers h t (· = start)

variable {g₀ : Arena} {order : Array Nat} {nodes : Array Node} {n : Node}

namespace Placed

variable {s : Node} {x j : Nat} {k : Link}

section Steps

variable (hp : Placed g order i s n)
include hp

/-- The edge of a state stands for the edge of its node. -/
theorem exists_link (hk : s.edges.link? x = some k) :
    ∃ k', n.edges.link? x = some k' ∧ Points g order k k' := by
  have hx := hp.points x
  rw [hk] at hx
  generalize n.edges.link? x = k? at hx
  cases hx with
  | some hpoints => exact ⟨_, rfl, hpoints⟩

theorem link?_eq_none (hk : s.edges.link? x = none) : n.edges.link? x = none := by
  have hx := hp.points x
  rw [hk] at hx
  generalize n.edges.link? x = k? at hx
  cases hx with
  | none => rfl

variable (hg : g.WellFormed)
include hg

theorem holds : Holds g g.ambiguous (· = i) n := hp.describes g hg (.refl g)

theorem stuck (hk : s.edges.link? x = none) : ¬ Leads g (fun _ => False) i x marks j := by
  intro hl
  obtain ⟨k, hk'⟩ := (hp.holds hg).exists_link rfl hl
  exact nomatch (hp.link?_eq_none hk).symm.trans hk'

theorem leads (hk : s.edges.link? x = some k) : 0 ∈ k.routes ∧
    ∃ t, order[k.next]? = some t ∧ Covers g t fun j => ∃ marks, Leads g (fun _ => False) i x marks j := by
  obtain ⟨k', hk', hpoints⟩ := hp.exists_link hk
  obtain ⟨e, he, -, rfl⟩ := EdgeMap.link?_eq_some.1 hk'
  have hfollows := (hp.holds hg).follows x
  rw [hk'] at hfollows
  simp only [exists_eq_left] at hfollows
  obtain ⟨t, ht, hc⟩ := hpoints.target
  refine ⟨?_, t, ht, ?_⟩
  · rw [hpoints.routes, show e.link.routes = _ from (hp.within.edge e he).routes]
    exact SortedSet.mem_singleton.2 rfl
  · intro on? l marks
    rw [hc g (.refl g) on? l marks, exists_eq_left]
    exact hfollows.2 on? l marks

theorem mem_accept : 0 ∈ s.accept ↔ ∃ marks, Ends g (fun _ => False) i marks := by
  have haccepting := (hp.holds hg).accepting
  rw [exists_eq_left, Node.isAccepting_iff] at haccepting
  rw [hp.accept, ← haccepting]
  constructor
  · exact fun h => ⟨0, h⟩
  · rintro ⟨j, hj⟩
    obtain rfl := hp.within.accept j hj
    exact hj

variable (hfalse : g.ambiguous = false)
include hfalse

theorem marks_eq (hk : s.edges.link? x = some k) (hl : Leads g (fun _ => False) i x marks j) : marks = k.marks := by
  obtain ⟨k', hk', hpoints⟩ := hp.exists_link hk
  rw [hpoints.marks]
  exact ((hp.holds hg).even hfalse).link hk' rfl hl

theorem exit_eq (he : Ends g (fun _ => False) i marks) : marks = s.exit := by
  rw [hp.exit]
  exact ((hp.holds hg).even hfalse).exit rfl he

end Steps

theorem points_of_mem (hp : Placed g order i s n) {e : Edge} (he : e ∈ s.edges.edges) :
    ∃ f ∈ n.edges.edges, Points g order e.link f.link := by
  have hlo : e.contains e.lo = true :=
    Edge.contains_iff.2 ⟨Nat.le_refl _, s.edges.canonical.nonempty e he⟩
  obtain ⟨k, hk, hpoints⟩ := hp.exists_link (EdgeMap.link?_eq_some.2 ⟨e, he, hlo, rfl⟩)
  obtain ⟨f, hf, -, rfl⟩ := EdgeMap.link?_eq_some.1 hk
  exact ⟨f, hf, hpoints⟩

theorem next_lt (hp : Placed g order i s n) {e : Edge} (he : e ∈ s.edges.edges) :
    e.next < order.size := by
  obtain ⟨f, -, hpoints⟩ := hp.points_of_mem he
  obtain ⟨t, ht, -⟩ := hpoints.target
  exact (Array.getElem?_eq_some_iff.1 ht).1

theorem routes (hp : Placed g order i s n) {e : Edge} (he : e ∈ s.edges.edges) :
    e.routes = .singleton 0 := by
  obtain ⟨f, hf, hpoints⟩ := hp.points_of_mem he
  exact hpoints.routes.trans (hp.within.edge f hf).routes

end Placed

/-- A list that has been dealt with makes an automaton of its nodes. -/
theorem Freezing.realizes (hf : Freezing g₀ g order nodes) (hsize : order.size = nodes.size) :
    Realizes g ((Automaton.ofNodes nodes 0).withAmbiguous g.ambiguous) fun s i => order[s]? = some i := by
  generalize ha : (Automaton.ofNodes nodes 0).withAmbiguous g.ambiguous = a
  have hamb : a.ambiguous = false → g.ambiguous = false := by
    subst ha
    simp [Automaton.withAmbiguous, Automaton.ofNodes]
  have hplaced : ∀ {s i}, order[s]? = some i → ∃ n, Placed g order i (a.node s) n := by
    intro s i hs
    have hlt : s < nodes.size := hsize ▸ (Array.getElem?_eq_some_iff.1 hs).1
    obtain ⟨n, hn⟩ := hf.placed hs (Array.getElem?_eq_getElem hlt)
    refine ⟨n, ?_⟩
    subst ha
    simpa [Automaton.node, Automaton.withAmbiguous, Automaton.ofNodes, Array.getD_eq_getD_getElem?,
      Array.getElem?_eq_getElem hlt] using hn
  have hg := hf.based.wellFormed
  refine ⟨fun hs hk => ?_, fun hs hk => ?_, fun hs => ?_, fun hfalse _ _ _ _ _ _ hs hk hl => ?_,
    fun hfalse _ _ _ hs he => ?_⟩
  all_goals obtain ⟨n, hn⟩ := hplaced hs
  · exact hn.stuck hg hk
  · exact hn.leads hg hk
  · exact hn.mem_accept hg
  · exact hn.marks_eq hg (hamb hfalse) hk hl
  · exact hn.exit_eq hg (hamb hfalse) he

theorem Freezing.wellFormed (hf : Freezing g₀ g order nodes) (hsize : order.size = nodes.size)
    (hpos : 0 < order.size) (ambiguous : Bool) :
    ((Automaton.ofNodes nodes 0).withAmbiguous ambiguous).WellFormed := by
  refine (Automaton.wellFormed_ofNodes (hsize ▸ hpos) fun s hs e he => ?_).withAmbiguous ambiguous
  obtain ⟨k, hk, rfl⟩ := Array.mem_iff_getElem.1 hs
  obtain ⟨n, hn⟩ := hf.placed (Array.getElem?_eq_getElem (hsize ▸ hk)) (Array.getElem?_eq_getElem hk)
  rw [← hsize]
  exact hn.next_lt he

theorem Freezing.patterns (hf : Freezing g₀ g order nodes) (hsize : order.size = nodes.size)
    (ambiguous : Bool) : ((Automaton.ofNodes nodes 0).withAmbiguous ambiguous).patterns = 1 := by
  refine Automaton.boundOf_eq_one fun m hm => ?_
  obtain ⟨s, hs, hm⟩ := List.mem_flatMap.1 hm
  obtain ⟨k, hk, rfl⟩ := Array.mem_iff_getElem.1 (Array.mem_toList_iff.1 hs)
  obtain ⟨n, hn⟩ := hf.placed (Array.getElem?_eq_getElem (hsize ▸ hk)) (Array.getElem?_eq_getElem hk)
  rcases Automaton.exists_of_mem_ids hm with hmem | ⟨e, he, hmem⟩
  · exact hn.within.accept m (hn.accept ▸ hmem)
  · rw [hn.routes he] at hmem
    exact SortedSet.mem_singleton.1 hmem

theorem Freezing.exit_eq (hf : Freezing g₀ g order nodes) (hsize : order.size = nodes.size) {s : Node}
    (hs : s ∈ nodes) (hempty : s.accept = ∅) : s.exit = ∅ := by
  obtain ⟨k, hk, rfl⟩ := Array.mem_iff_getElem.1 hs
  obtain ⟨n, hn⟩ := hf.placed (Array.getElem?_eq_getElem (hsize ▸ hk)) (Array.getElem?_eq_getElem hk)
  rw [hn.exit]
  refine hn.within.exit ?_
  rw [Node.isAccepting, ← hn.accept, hempty]
  rfl

/-- Nothing is resolved at first. -/
theorem based_self (hg : g.WellFormed) (hclosed : ∀ i, g.recipe i ≠ .marker none) (hblank : Blank g) :
    Based g g :=
  ⟨hblank.informed.grounded hg, hclosed⟩

/-- In an arena that has been built from nothing, all markers have been closed and nothing is resolved. -/
theorem Grown.based {result : Nat × Arena} (hr : Grown .new result) : Based result.2 result.2 := by
  refine based_self hr.wellFormed (fun i => ?_) (hr.grows.blank fun i hi => absurd (recipe_new i) hi)
  rcases Nat.lt_or_ge i Arena.new.size with hlt | hge
  · simp [hr.grows.recipe_eq i hlt, recipe_new]
  · exact hr.grows.closed i hge

/-- At first the list holds the start alone, and nothing has been dealt with. -/
theorem Based.freezing (hb : Based g₀ g) (hstart : start < g.size) :
    Freezing g₀ g #[g.canonical start] #[] := by
  refine ⟨hb, ⟨List.nodup_singleton _, fun i hi => ?_⟩, Nat.zero_le _, fun _ hs => by simp at hs⟩
  obtain rfl : i = g.canonical start := by simpa using hi
  exact canonical_lt hb.wellFormed hstart

/-- The fuel of freezing suffices from the start. -/
theorem Based.fuel_le (hb : Based g₀ g) :
    g₀.size + 2 ^ g₀.size ≤ (#[] : Array Node).size + (2 ^ g.size + g.size) := by
  have := hb.grows.size_le
  have := Nat.pow_le_pow_right (show 0 < 2 by decide) hb.grows.size_le
  rw [List.size_toArray, List.length_nil]
  omega

/-- Resolving everything reachable from a node gives an automaton of what the node spells. -/
theorem frozen_of_based (h₀ : g₀.WellFormed) (hb : Based g₀ g) (hstart : start < g.size) :
    Resolves g₀ g (g.freeze start).2 ∧ ∃ R, Frozen (g.freeze start).2 start (g.freeze start).1 R := by
  obtain ⟨hresolves, order, hf, hext, hsize⟩ := freezing_freezeWithin h₀ (hb.freezing hstart) hb.fuel_le
  simp only [freeze]
  generalize g.freezeWithin (2 ^ g.size + g.size) #[g.canonical start] #[] = r at hresolves hf hsize
  obtain ⟨nodes, g'⟩ := r
  have hfirst : order[0]? = some (g.canonical start) := hext 0 _ rfl
  have hpos : 0 < order.size := (Array.getElem?_eq_some_iff.1 hfirst).1
  exact ⟨hresolves, _, hf.wellFormed hsize hpos _, hf.patterns hsize _, fun _ => hf.exit_eq hsize,
    hf.realizes hsize, g.canonical start, hfirst, covers_place hb.wellFormed hresolves.grows.settles start⟩

end Polymatch.Arena
