import Polymatch.Proofs.Edges.Lookup

/-! # Canonical maps

Ascending disjoint groups, joined wherever touching groups agree, are determined by what
they say: neither the order in which edges are given nor the cuts between them matter to the
map that is made of them. The making fails if two groups share an ordinal, and only then.
-/

namespace Polymatch

namespace Edge

variable {e f : Edge} {l r edges : List Edge} {x : Nat} {k : Link}

theorem Canonical.of_cons (h : Canonical (e :: l)) : Canonical l :=
  ⟨fun a ha => h.nonempty a (List.mem_cons_of_mem e ha), (List.pairwise_cons.1 h.ascending).2⟩

theorem Canonical.lo_lt_hi (h : Canonical (e :: l)) : e.lo < e.hi := h.nonempty e List.mem_cons_self

/-- What is said behind the first edge is said of ordinals that the first edge does not reach. -/
theorem Canonical.hi_le_of_says (h : Canonical (e :: l)) (hs : Says l x k) : e.hi ≤ x := by
  obtain ⟨a, ha, hx, -⟩ := hs
  have hea := (List.pairwise_cons.1 h.ascending).1 a ha
  rw [contains_iff] at hx
  exact Nat.le_trans hea.1 hx.1

/-- Where the first edge ends, nothing says the same. -/
theorem Canonical.not_says_hi (h : Canonical (e :: l)) : ¬ Says (e :: l) e.hi e.link := by
  rw [says_cons, contains_iff]
  rintro (⟨hx, -⟩ | ⟨a, ha, hx, hlink⟩)
  · omega
  · have hea := (List.pairwise_cons.1 h.ascending).1 a ha
    rw [contains_iff] at hx
    exact hea.2 (Nat.le_antisymm hea.1 hx.1) hlink.symm

theorem Canonical.lo_le_of_says (h : Canonical (e :: l)) (hs : Says (e :: l) x k) : e.lo ≤ x := by
  have hlt := h.lo_lt_hi
  rcases says_cons.1 hs with ⟨hx, -⟩ | hs
  · exact (contains_iff.1 hx).1
  · have := h.hi_le_of_says hs
    omega

theorem Canonical.says_head (h : Canonical (e :: l)) (hlo : e.lo ≤ x) (hhi : x < e.hi) :
    Says (e :: l) x k ↔ e.link = k := by
  rw [says_cons, contains_iff]
  constructor
  · rintro (⟨-, hk⟩ | hs)
    · exact hk
    · have := h.hi_le_of_says hs
      omega
  · exact fun hk => .inl ⟨⟨hlo, hhi⟩, hk⟩

theorem says_nil : ¬ Says [] x k := fun ⟨_, he, _⟩ => nomatch he

/-- The first groups of two canonical lists that say the same begin at the same place. -/
theorem Canonical.lo_le (hl : Canonical (e :: l)) (hr : Canonical (f :: r))
    (h : ∀ x k, Says (e :: l) x k ↔ Says (f :: r) x k) : e.lo ≤ f.lo :=
  hl.lo_le_of_says ((h f.lo f.link).2 ((hr.says_head (Nat.le_refl _) hr.lo_lt_hi).2 rfl))

/-- If both begin at the same place, the first group of one reaches as far as that of the other. -/
theorem Canonical.hi_le (hl : Canonical (e :: l)) (hr : Canonical (f :: r)) (hlo : e.lo = f.lo)
    (hlink : e.link = f.link) (h : ∀ x k, Says (e :: l) x k ↔ Says (f :: r) x k) : f.hi ≤ e.hi := by
  apply Nat.le_of_not_lt
  intro hlt
  have hlt' := hl.lo_lt_hi
  have hsays : Says (f :: r) e.hi e.link := (hr.says_head (by omega) hlt).2 hlink.symm
  exact hl.not_says_hi ((h e.hi e.link).2 hsays)

/-- Canonical lists that say the same of every ordinal are the same. -/
theorem Canonical.eq_of_says (hl : Canonical l) (hr : Canonical r)
    (h : ∀ x k, Says l x k ↔ Says r x k) : l = r := by
  induction l generalizing r with
  | nil =>
    cases r with
    | nil => rfl
    | cons f r => exact absurd ((h f.lo f.link).2 ((hr.says_head (Nat.le_refl _) hr.lo_lt_hi).2 rfl)) says_nil
  | cons e l ih =>
    cases r with
    | nil => exact absurd ((h e.lo e.link).1 ((hl.says_head (Nat.le_refl _) hl.lo_lt_hi).2 rfl)) says_nil
    | cons f r =>
      have hlo : e.lo = f.lo := Nat.le_antisymm (hl.lo_le hr h) (hr.lo_le hl fun x k => (h x k).symm)
      have hlink : e.link = f.link := by
        have hsays := (h e.lo f.link).2 ((hr.says_head (by omega) (by rw [hlo]; exact hr.lo_lt_hi)).2 rfl)
        exact (hl.says_head (Nat.le_refl _) hl.lo_lt_hi).1 hsays
      have hhi : e.hi = f.hi := Nat.le_antisymm
        (hr.hi_le hl hlo.symm hlink.symm fun x k => (h x k).symm) (hl.hi_le hr hlo hlink h)
      have hef : e = f := by
        cases e
        cases f
        simp only [link, Link.mk.injEq] at hlo hhi hlink ⊢
        simp [hlo, hhi, hlink]
      subst hef
      -- what is said behind the first edge is what is said from its end on
      have hbehind : ∀ {l r : List Edge}, Canonical (e :: l) → (∀ x k, Says (e :: l) x k → Says (e :: r) x k) →
          ∀ x k, Says l x k → Says r x k := by
        intro l r hl h x k hs
        have hx := hl.hi_le_of_says hs
        rcases says_cons.1 (h x k (says_cons.2 (.inr hs))) with ⟨hx', -⟩ | hs'
        · rw [contains_iff] at hx'
          omega
        · exact hs'
      rw [ih hl.of_cons hr.of_cons fun x k => ⟨hbehind hl (fun x k => (h x k).1) x k,
        hbehind hr (fun x k => (h x k).2) x k⟩]

/-- Two edges of a list, at different places of it, share an ordinal. -/
def Clash (edges : List Edge) : Prop :=
  ∃ (i j : Nat) (e f : Edge), i < j ∧ edges[i]? = some e ∧ edges[j]? = some f ∧
    ∃ x, e.contains x = true ∧ f.contains x = true

theorem not_clash_iff : ¬ Clash edges ↔ edges.Pairwise Apart := by
  rw [List.pairwise_iff_getElem]
  constructor
  · intro h i j hi hj hij x he hf
    exact h ⟨i, j, _, _, hij, List.getElem?_eq_getElem hi, List.getElem?_eq_getElem hj, x, he, hf⟩
  · rintro h ⟨i, j, e, f, hij, he, hf, x, hex, hfx⟩
    obtain ⟨hi, rfl⟩ := List.getElem?_eq_some_iff.1 he
    obtain ⟨hj, rfl⟩ := List.getElem?_eq_some_iff.1 hf
    exact h i j hi hj hij x hex hfx

/-- Groups do not clash if of any two of them one ends where the other begins, or before it. -/
theorem not_clash_of_ends (h : edges.Pairwise fun e f => e.hi ≤ f.lo ∨ f.hi ≤ e.lo) : ¬ Clash edges := by
  refine not_clash_iff.2 (h.imp fun {e f} hef => ?_)
  rcases hef with hef | hfe
  · exact Interval.apart_of_le hef
  · exact Apart.symm (Interval.apart_of_le hfe)

end Edge

namespace EdgeMap

open Edge (Says Clash Canonical)

variable {l r edges : List Edge} {m n : EdgeMap}

theorem eq_of_edges (h : m.edges = n.edges) : m = n := by
  cases m
  cases n
  subst h
  rfl

/-- The map is the canonical form of some edges. On an ordinal it takes an edge around the ordinal that says
what they say, and none where there is none of them. Whatever canonical list says the same is its list. -/
structure FormOf (edges : List Edge) (m : EdgeMap) : Prop where
  canonical : Canonical m.edges
  found : ∀ x f, m.find? x = some f → f.contains x = true ∧ ∃ e ∈ edges, e.contains x = true ∧ f.link = e.link
  missed : ∀ x, m.find? x = none → ∀ e ∈ edges, e.contains x = false
  unique : ∀ l, Canonical l → (∀ x k, Says l x k ↔ Says edges x k) → l = m.edges

/-- A map with canonical edges that says what some edges say is their canonical form. -/
theorem formOf_of_says (hc : Canonical m.edges) (h : ∀ x k, m.link? x = some k ↔ Says edges x k) :
    FormOf edges m where
  canonical := hc
  found x f hf := by
    obtain ⟨e, he, hx, hlink⟩ := (h x f.link).1 (by rw [link?, hf, Option.map_some])
    exact ⟨(find?_eq_some.1 hf).2, e, he, hx, hlink.symm⟩
  missed x hnone e he := by
    rw [← Bool.not_eq_true]
    intro hx
    have hsome := (h x e.link).2 ⟨e, he, hx, rfl⟩
    rw [link?, hnone] at hsome
    cases hsome
  unique l hl hs := by
    apply hl.eq_of_says hc
    intro x k
    rw [hs x k, ← h x k, link?_eq_some]

theorem formOf_ofEdges (h : ofEdges edges = .ok m) : FormOf edges m := by
  have hj := ofEdges_eq_ok.1 h
  exact formOf_of_says (canonical_joinSorted hj fun _ he => (mem_sorted.1 he).2) fun x k => link?_ofEdges h

/-- A map can be made of edges unless two of them clash. -/
theorem exists_ofEdges_iff : (∃ m, ofEdges edges = .ok m) ↔ ¬ Clash edges := by
  rw [Edge.not_clash_iff]
  constructor
  · rintro ⟨m, hm⟩
    exact apart_of_ofEdges hm
  · exact ofEdges_of_apart

theorem exists_error_iff : (∃ o, ofEdges edges = .error o) ↔ Clash edges := by
  rw [← not_iff_not, ← exists_ofEdges_iff]
  cases ofEdges edges <;> simp

/-- The canonical forms of two lists are the same map iff the lists say the same. -/
theorem FormOf.eq_iff (hm : FormOf l m) (hn : FormOf r n) (hl : ofEdges l = .ok m) (hr : ofEdges r = .ok n) :
    m = n ↔ ∀ x k, Says l x k ↔ Says r x k := by
  constructor
  · rintro rfl x k
    rw [← link?_ofEdges hl, ← link?_ofEdges hr]
  · intro h
    apply eq_of_edges
    apply hn.unique m.edges hm.canonical
    intro x k
    rw [← link?_eq_some, link?_ofEdges hl, h x k]

/-- Rewriting the edges of a map on their own groups never clashes. -/
theorem ofEdges_map (m : EdgeMap) (f : Edge → Edge) :
    ofEdges (m.edges.map fun e => (f e).onGroup e.group) = .ok (m.map f) := by
  have hapart : (m.edges.map fun e => (f e).onGroup e.group).Pairwise Edge.Apart :=
    List.pairwise_map.2 m.pairwise_apart
  obtain ⟨n, hn⟩ := ofEdges_of_apart hapart
  rw [EdgeMap.map, ofDisjoint, hn]
  rfl

/-- Edges without a clash make up a map, whatever their order and their cuts: the map finds on every ordinal
what they say of it, and two such maps are equal iff the edges say the same of every ordinal. The making
fails iff two groups share an ordinal. What comes of joining maps and of rewriting edges has the same form. -/
theorem canonical_forms (hl : ¬ Clash l) (hr : ¬ Clash r) :
    (∃ m n, ofEdges l = .ok m ∧ ofEdges r = .ok n ∧ FormOf l m ∧ FormOf r n ∧
        (m = n ↔ ∀ x k, Says l x k ↔ Says r x k)) ∧
      (∀ edges, (∃ o, ofEdges edges = .error o) ↔ Clash edges) ∧
      (∀ maps, ((∃ o, mergeAll maps = .error o) ↔ Clash (maps.flatMap EdgeMap.edges)) ∧
        ∀ m, mergeAll maps = .ok m → FormOf (maps.flatMap EdgeMap.edges) m) ∧
      ∀ (m : EdgeMap) (f : Edge → Edge), FormOf (m.edges.map fun e => (f e).onGroup e.group) (m.map f) := by
  refine ⟨?_, fun edges => exists_error_iff, fun maps => ⟨exists_error_iff, fun m => formOf_ofEdges⟩,
    fun m f => formOf_ofEdges (ofEdges_map m f)⟩
  obtain ⟨m, hm⟩ := exists_ofEdges_iff.2 hl
  obtain ⟨n, hn⟩ := exists_ofEdges_iff.2 hr
  have hfm := formOf_ofEdges hm
  have hfn := formOf_ofEdges hn
  exact ⟨m, n, hm, hn, hfm, hfn, hfm.eq_iff hfn hm hn⟩

/-- The letters `[b-f]` to one state and `[j-k]` to another, in one piece each and behind them a group
without letters. -/
def lettersWhole : List Edge :=
  [⟨106, 108, 2, IdSet.range 1, ∅⟩, ⟨98, 103, 1, IdSet.range 1, ∅⟩, ⟨110, 110, 3, IdSet.range 1, ∅⟩]

/-- The same in more pieces and another order. -/
def lettersCut : List Edge :=
  [⟨101, 103, 1, IdSet.range 1, ∅⟩, ⟨106, 107, 2, IdSet.range 1, ∅⟩, ⟨98, 101, 1, IdSet.range 1, ∅⟩,
    ⟨107, 108, 2, IdSet.range 1, ∅⟩]

theorem canonical_forms_letters :
    ¬ Clash lettersWhole ∧ ¬ Clash lettersCut ∧
      ∃ m n, ofEdges lettersWhole = .ok m ∧ ofEdges lettersCut = .ok n ∧
        (m = n ↔ ∀ x k, Says lettersWhole x k ↔ Says lettersCut x k) := by
  have hwhole : ¬ Clash lettersWhole := Edge.not_clash_of_ends (by decide)
  have hcut : ¬ Clash lettersCut := Edge.not_clash_of_ends (by decide)
  obtain ⟨⟨m, n, hm, hn, -, -, hiff⟩, -⟩ := canonical_forms hwhole hcut
  exact ⟨hwhole, hcut, m, n, hm, hn, hiff⟩

end EdgeMap

end Polymatch
