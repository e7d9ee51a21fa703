import Mathlib.Data.List.Pairwise
import Polymatch.EdgeMap
import Polymatch.Proofs.Interval.Gaps

/-! # Looking up edges

A map is determined by what it says of every ordinal. Edges whose groups have no
ordinal in common form a map, in whatever order they are given, and the map says
of every ordinal what the edge says whose group contains it.
-/

namespace Polymatch

namespace Edge

@[simp] theorem contains_iff {e : Edge} {x : Nat} : e.contains x = true ↔ e.lo ≤ x ∧ x < e.hi :=
  Interval.contains_iff

/-- The two groups have no ordinal in common. -/
def Apart (e f : Edge) : Prop := e.group.Apart f.group

theorem Apart.symm {e f : Edge} (h : e.Apart f) : f.Apart e := Interval.Apart.symm h

theorem Precedes.apart {e f : Edge} (h : e.Precedes f) : e.Apart f := Interval.apart_of_le h.1

theorem pairwise_apart_iff {edges : List Edge} :
    edges.Pairwise Apart ↔ (edges.map group).Pairwise Interval.Apart := by
  rw [List.pairwise_map]
  rfl

/-- Some edge of the list says `k` of `x`. -/
def Says (edges : List Edge) (x : Nat) (k : Link) : Prop := ∃ e ∈ edges, e.contains x = true ∧ e.link = k

theorem says_cons {e : Edge} {edges : List Edge} {x : Nat} {k : Link} :
    Says (e :: edges) x k ↔ (e.contains x = true ∧ e.link = k) ∨ Says edges x k := by
  simp [Says]

theorem says_append {l r : List Edge} {x : Nat} {k : Link} :
    Says (l ++ r) x k ↔ Says l x k ∨ Says r x k := by
  simp only [Says, List.mem_append]
  constructor
  · rintro ⟨e, he | he, h⟩
    · exact .inl ⟨e, he, h⟩
    · exact .inr ⟨e, he, h⟩
  · rintro (⟨e, he, h⟩ | ⟨e, he, h⟩)
    · exact ⟨e, .inl he, h⟩
    · exact ⟨e, .inr he, h⟩

end Edge

namespace EdgeMap

open Edge (Says Apart)

/-- What a map says of an ordinal. -/
def link? (m : EdgeMap) (x : Nat) : Option Link := (m.find? x).map Edge.link

theorem pairwise_apart (m : EdgeMap) : m.edges.Pairwise Apart :=
  m.canonical.ascending.imp Edge.Precedes.apart

section Boundary

variable {p : Edge → Bool} {edges : List Edge}

/-- Halving keeps the place where `p` ends within reach: `p` holds below it, and not above it. -/
theorem narrow_spec (hp : ∀ i j : Nat, i ≤ j → edges[j]?.any p = true → edges[i]?.any p = true)
    {rounds base size : Nat} (hsize : size ≤ rounds + 1) (hlow : ∀ i : Nat, i < base → edges[i]?.any p = true)
    (hhigh : ∀ i : Nat, base + size ≤ i → edges[i]?.any p = false) :
    (∀ i : Nat, i < narrow p edges rounds base size → edges[i]?.any p = true) ∧
      ∀ i : Nat, narrow p edges rounds base size < i → edges[i]?.any p = false := by
  induction rounds generalizing base size with
  | zero =>
    unfold narrow
    exact ⟨hlow, fun i hi => hhigh i (by omega)⟩
  | succ rounds ih =>
    unfold narrow
    split
    · exact ⟨hlow, fun i hi => hhigh i (by omega)⟩
    · apply ih (by omega)
      · intro i hi
        split at hi
        · rename_i hmiddle
          exact hp i _ (by omega) hmiddle
        · exact hlow i hi
      · intro i hi
        split at hi
        · exact hhigh i (by omega)
        · rename_i hmiddle
          rw [← Bool.not_eq_true]
          exact fun hi' => hmiddle (hp _ i (by omega) hi')

/-- If the edges with `p` come first, these are the edges below the boundary. -/
theorem any_iff_lt_boundary (hp : ∀ i j : Nat, i ≤ j → edges[j]?.any p = true → edges[i]?.any p = true)
    (i : Nat) : edges[i]?.any p = true ↔ i < boundary p edges := by
  have hbehind : ∀ i : Nat, 0 + edges.length ≤ i → edges[i]?.any p = false := fun i hi => by
    rw [List.getElem?_eq_none (by omega)]
    rfl
  obtain ⟨hlow, hhigh⟩ :=
    narrow_spec hp (Nat.le_succ edges.length) (fun i hi => absurd hi (Nat.not_lt_zero i)) hbehind
  simp only [boundary]
  generalize narrow p edges edges.length 0 edges.length = base at hlow hhigh
  rcases Nat.lt_trichotomy i base with hlt | rfl | hgt
  · refine iff_of_true (hlow i hlt) ?_
    split <;> omega
  · split <;> simp_all
  · refine iff_of_false (Bool.eq_false_iff.1 (hhigh i hgt)) ?_
    split <;> omega

end Boundary

/-- What ends before an ordinal comes first in a map. -/
theorem any_hi_le (m : EdgeMap) (x i j : Nat) (hij : i ≤ j)
    (hj : m.edges[j]?.any (fun e => e.hi ≤ x) = true) : m.edges[i]?.any (fun e => e.hi ≤ x) = true := by
  simp only [Option.any_eq_true, decide_eq_true_eq] at hj ⊢
  obtain ⟨f, hf, hx⟩ := hj
  rcases Nat.lt_or_eq_of_le hij with hlt | rfl
  · obtain ⟨hjlt, rfl⟩ := List.getElem?_eq_some_iff.1 hf
    have hprecedes := List.pairwise_iff_getElem.1 m.canonical.ascending i j (by omega) hjlt hlt
    have hnonempty := m.canonical.nonempty _ (List.getElem_mem hjlt)
    exact ⟨_, List.getElem?_eq_getElem (by omega), by have := hprecedes.1; omega⟩
  · exact ⟨f, hf, hx⟩

theorem find?_eq_some {m : EdgeMap} {x : Nat} {e : Edge} :
    m.find? x = some e ↔ e ∈ m.edges ∧ e.contains x = true := by
  have hboundary := any_iff_lt_boundary (m.any_hi_le x)
  unfold find?
  generalize boundary (fun e => decide (e.hi ≤ x)) m.edges = b at hboundary
  have hends : ∀ {i : Nat} {e : Edge}, m.edges[i]? = some e → (e.hi ≤ x ↔ i < b) := by
    intro i e he
    rw [← hboundary, he, Option.any_some, decide_eq_true_eq]
  rw [Option.filter_eq_some_iff, decide_eq_true_eq, Edge.contains_iff]
  constructor
  · rintro ⟨he, hlo⟩
    have hnot := (hends he).not.2 (Nat.lt_irrefl b)
    exact ⟨List.mem_of_getElem? he, hlo, by omega⟩
  · rintro ⟨he, hlo, hhi⟩
    obtain ⟨i, hi, rfl⟩ := List.mem_iff_getElem.1 he
    have hle : b ≤ i := by
      have := (hends (List.getElem?_eq_getElem hi)).not.1 (by omega)
      omega
    refine ⟨?_, hlo⟩
    obtain rfl | hlt := Nat.eq_or_lt_of_le hle
    · exact List.getElem?_eq_getElem hi
    · -- an edge in front of the one around the ordinal ends before the ordinal
      have hprecedes := List.pairwise_iff_getElem.1 m.canonical.ascending b i (by omega) hi hlt
      have := (hends (List.getElem?_eq_getElem (show b < m.edges.length by omega))).1
        (Nat.le_trans hprecedes.1 hlo)
      omega

theorem link?_eq_some {m : EdgeMap} {x : Nat} {k : Link} :
    m.link? x = some k ↔ Says m.edges x k := by
  rw [link?, Option.map_eq_some_iff]
  constructor
  · rintro ⟨e, hfind, rfl⟩
    obtain ⟨he, hx⟩ := find?_eq_some.1 hfind
    exact ⟨e, he, hx, rfl⟩
  · rintro ⟨e, he, hx, rfl⟩
    exact ⟨e, find?_eq_some.2 ⟨he, hx⟩, rfl⟩

theorem link?_eq_none {m : EdgeMap} {x : Nat} : m.link? x = none ↔ ∀ k, ¬ Says m.edges x k := by
  simp only [← link?_eq_some]
  cases m.link? x <;> simp

theorem says_chain {last : Edge} {rest l : List Edge} (h : chain last rest = .ok l)
    (hn : ∀ e ∈ last :: rest, e.lo < e.hi) {x : Nat} {k : Link} :
    Says l x k ↔ Says (last :: rest) x k := by
  induction rest generalizing last l with
  | nil =>
    obtain rfl : [last] = l := by simpa [chain] using h
    exact Iff.rfl
  | cons e rest ih =>
    have hlast := hn last (by simp)
    have he := hn e (by simp)
    simp only [chain] at h
    split at h
    · cases h
    · split at h
      · rename_i hle hj
        simp only [Bool.and_eq_true, decide_eq_true_eq, Edge.agrees_iff] at hj
        have hn' : ∀ f ∈ { last with hi := e.hi } :: rest, f.lo < f.hi := by
          intro f hf
          rcases List.mem_cons.1 hf with rfl | hf
          · simp only
            omega
          · exact hn f (by simp [hf])
        rw [ih h hn', Edge.says_cons, Edge.says_cons, Edge.says_cons, ← or_assoc]
        refine or_congr ?_ Iff.rfl
        have hl : Edge.link { last with hi := e.hi } = last.link := rfl
        simp only [Edge.contains_iff, ← hj.2, hl, ← or_and_right]
        refine and_congr ?_ Iff.rfl
        omega
      · cases hc : chain e rest with
        | error o => simp [hc, Functor.map, Except.map] at h
        | ok t =>
          obtain rfl : last :: t = l := by simpa [hc, Functor.map, Except.map] using h
          have ht := ih hc fun f hf => hn f (by simp [hf])
          rw [Edge.says_cons, ht, ← Edge.says_cons]

theorem chain_of_ascending {last : Edge} {rest : List Edge}
    (h : (last :: rest).Pairwise (·.hi ≤ ·.lo)) (hn : ∀ e ∈ last :: rest, e.lo < e.hi) :
    ∃ l, chain last rest = .ok l := by
  induction rest generalizing last with
  | nil => exact ⟨_, rfl⟩
  | cons e rest ih =>
    obtain ⟨hlast, hrest⟩ := List.pairwise_cons.1 h
    obtain ⟨he, hrest'⟩ := List.pairwise_cons.1 hrest
    have hle := hlast e (by simp)
    simp only [chain, if_neg (Nat.not_lt.2 hle)]
    split
    · refine @ih { last with hi := e.hi } (List.pairwise_cons.2 ⟨he, hrest'⟩) fun f hf => ?_
      rcases List.mem_cons.1 hf with rfl | hf
      · have := hn last (by simp)
        have := hn e (by simp)
        simp only
        omega
      · exact hn f (by simp [hf])
    · obtain ⟨l, hl⟩ := ih hrest fun f hf => hn f (by simp [hf])
      exact ⟨last :: l, by simp [hl, Functor.map, Except.map]⟩

theorem ofEdges_eq_ok {edges : List Edge} {m : EdgeMap} :
    ofEdges edges = .ok m ↔ joinSorted (sorted edges) = .ok m.edges := by
  simp only [ofEdges]
  split
  · rename_i o h
    simp [h]
  · rename_i l h
    constructor
    · rintro ⟨⟩
      exact h
    · intro hm
      obtain rfl : l = m.edges := Except.ok.inj (h.symm.trans hm)
      rfl

theorem says_sorted {edges : List Edge} {x : Nat} {k : Link} :
    Says (sorted edges) x k ↔ Says edges x k := by
  constructor
  · rintro ⟨e, he, h⟩
    exact ⟨e, (mem_sorted.1 he).1, h⟩
  · rintro ⟨e, he, hx, h⟩
    have := Edge.contains_iff.1 hx
    exact ⟨e, mem_sorted.2 ⟨he, by omega⟩, hx, h⟩

theorem link?_ofEdges {edges : List Edge} {m : EdgeMap} (h : ofEdges edges = .ok m) {x : Nat}
    {k : Link} : m.link? x = some k ↔ Says edges x k := by
  rw [link?_eq_some, ← @says_sorted edges]
  have hj := ofEdges_eq_ok.1 h
  have hn : ∀ e ∈ sorted edges, e.lo < e.hi := fun e he => (mem_sorted.1 he).2
  cases hs : sorted edges with
  | nil =>
    obtain hm : [] = m.edges := by simpa [hs, joinSorted] using hj
    rw [← hm]
  | cons e rest =>
    rw [hs] at hj hn
    exact says_chain hj hn

/-- Edges apart from each other ascend once they are sorted. -/
theorem sorted_ascending {edges : List Edge} (h : edges.Pairwise Apart) :
    (sorted edges).Pairwise (·.hi ≤ ·.lo) := by
  have hp : (sorted edges).Pairwise Apart :=
    (List.Pairwise.perm (h.sublist List.filter_sublist) (List.mergeSort_perm _ _).symm
      fun hef => hef.symm)
  have hs : (sorted edges).Pairwise fun e f => e.lo ≤ f.lo := by
    refine (List.pairwise_mergeSort ?_ ?_ _).imp fun h => by simpa using h
    · intro a b c hab hbc
      simp only [decide_eq_true_eq] at *
      omega
    · intro a b
      simp only [Bool.or_eq_true, decide_eq_true_eq]
      omega
  refine (hp.and hs).imp_of_mem fun {e f} he hf ⟨ha, hle⟩ => Nat.le_of_not_lt fun hlt => ?_
  have := (mem_sorted.1 hf).2
  exact ha f.lo (Edge.contains_iff.2 ⟨hle, hlt⟩) (Edge.contains_iff.2 ⟨Nat.le_refl _, this⟩)

theorem ascending_of_chain {last : Edge} {rest l : List Edge} (h : chain last rest = .ok l)
    (hn : ∀ e ∈ last :: rest, e.lo < e.hi) : (last :: rest).Pairwise (·.hi ≤ ·.lo) := by
  induction rest generalizing last l with
  | nil => exact List.pairwise_singleton ..
  | cons e rest ih =>
    have he := hn e (by simp)
    simp only [chain] at h
    split at h
    · cases h
    · rename_i hle
      have hrest : (e :: rest).Pairwise (·.hi ≤ ·.lo) := by
        split at h
        · -- what is behind the joined edge is behind `e` too
          have hjoined := ih h fun f hf => by
            have hlast := hn last (by simp)
            rcases List.mem_cons.1 hf with rfl | hf
            · simp only
              omega
            · exact hn f (by simp [hf])
          exact List.pairwise_cons.2 (List.pairwise_cons.1 hjoined)
        · cases hc : chain e rest with
          | error o => simp [hc, Functor.map, Except.map] at h
          | ok t => exact ih hc fun f hf => hn f (by simp [hf])
      refine List.pairwise_cons.2 ⟨fun f hf => ?_, hrest⟩
      rcases List.mem_cons.1 hf with rfl | hf
      · omega
      · have := (List.pairwise_cons.1 hrest).1 f hf
        omega

/-- Only edges apart from each other make a map. -/
theorem apart_of_ofEdges {edges : List Edge} {m : EdgeMap} (h : ofEdges edges = .ok m) :
    edges.Pairwise Apart := by
  have hn : ∀ e ∈ sorted edges, e.lo < e.hi := fun e he => (mem_sorted.1 he).2
  have hj := ofEdges_eq_ok.1 h
  have hsorted : (sorted edges).Pairwise (·.hi ≤ ·.lo) := by
    cases hs : sorted edges with
    | nil => exact .nil
    | cons e rest =>
      rw [hs] at hj hn
      exact ascending_of_chain hj hn
  have hfilter : (edges.filter (!·.group.isEmpty)).Pairwise Apart :=
    (hsorted.imp Interval.apart_of_le).perm (List.mergeSort_perm _ _) fun hef => hef.symm
  refine (List.pairwise_filter.1 hfilter).imp fun {e f} hef => ?_
  intro x he hf
  refine hef ?_ ?_ x he hf
  · rw [Interval.contains_iff] at he
    simp only [Bool.not_eq_true', Interval.isEmpty_eq_false]
    omega
  · rw [Interval.contains_iff] at hf
    simp only [Bool.not_eq_true', Interval.isEmpty_eq_false]
    omega

theorem ofEdges_of_apart {edges : List Edge} (h : edges.Pairwise Apart) :
    ∃ m, ofEdges edges = .ok m := by
  have hn : ∀ e ∈ sorted edges, e.lo < e.hi := fun e he => (mem_sorted.1 he).2
  have ha := sorted_ascending h
  obtain ⟨l, hl⟩ : ∃ l, joinSorted (sorted edges) = .ok l := by
    cases hs : sorted edges with
    | nil => exact ⟨[], rfl⟩
    | cons e rest =>
      rw [hs] at ha hn
      exact chain_of_ascending ha hn
  exact ⟨⟨l, canonical_joinSorted hl hn⟩, ofEdges_eq_ok.2 hl⟩

/-- A map of edges apart from each other says what they say. -/
theorem link?_ofDisjoint {edges : List Edge} (h : edges.Pairwise Apart) {x : Nat} {k : Link} :
    (ofDisjoint edges).link? x = some k ↔ Says edges x k := by
  obtain ⟨m, hm⟩ := ofEdges_of_apart h
  rw [ofDisjoint, hm]
  exact link?_ofEdges hm

/-- The edges of a map lead where the edges that it was made of lead. -/
theorem exists_of_mem_ofDisjoint {edges : List Edge} {e : Edge} (he : e ∈ (ofDisjoint edges).edges) :
    ∃ f ∈ edges, f.link = e.link := by
  rw [ofDisjoint] at he
  cases hm : ofEdges edges with
  | error o =>
    rw [hm] at he
    exact absurd he List.not_mem_nil
  | ok m =>
    rw [hm] at he
    have hx : e.contains e.lo = true := Edge.contains_iff.2 ⟨Nat.le_refl _, m.canonical.nonempty e he⟩
    obtain ⟨f, hf, -, hl⟩ := (link?_ofEdges hm).1 (link?_eq_some.2 ⟨e, he, hx, rfl⟩)
    exact ⟨f, hf, hl⟩

/-- Rewriting the edges of a map rewrites what it says, as long as the group of an edge does not
matter to the image. -/
theorem link?_map {m : EdgeMap} {f : Edge → Edge} {h : Link → Link}
    (hf : ∀ e, (f e).link = h e.link) (x : Nat) : (m.map f).link? x = (m.link? x).map h := by
  have ha : (m.edges.map fun e => (f e).onGroup e.group).Pairwise Apart := by
    rw [List.pairwise_map]
    exact m.pairwise_apart
  refine Option.ext fun k => ?_
  rw [EdgeMap.map, link?_ofDisjoint ha, Option.map_eq_some_iff]
  constructor
  · rintro ⟨_, hm, hx, rfl⟩
    obtain ⟨e, he, rfl⟩ := List.mem_map.1 hm
    exact ⟨e.link, link?_eq_some.2 ⟨e, he, hx, rfl⟩, (hf e).symm⟩
  · rintro ⟨k, hk, rfl⟩
    obtain ⟨e, he, hx, rfl⟩ := link?_eq_some.1 hk
    exact ⟨_, List.mem_map_of_mem he, hx, hf e⟩

end EdgeMap

end Polymatch
