import Polymatch.Edge

/-! # Edge maps

The outgoing edges of a state, ascending, with disjoint groups. Touching groups
with the same edge are always joined, so maps that agree on every ordinal are
equal. A map carries the proof that it has this form.
-/

namespace Polymatch

/-- Two groups bound by one map that share an ordinal. -/
structure EdgeOverlap where
  later : Interval
  earlier : Interval
  deriving DecidableEq, Repr

structure EdgeMap where
  edges : List Edge
  canonical : Edge.Canonical edges
  deriving DecidableEq

namespace EdgeMap

def empty : EdgeMap := ⟨[], .nil⟩

instance : EmptyCollection EdgeMap := ⟨empty⟩

instance : Inhabited EdgeMap := ⟨empty⟩

def isEmpty (m : EdgeMap) : Bool := m.edges.isEmpty

def size (m : EdgeMap) : Nat := m.edges.length

/-- Join edges sorted by their groups to `last` and to each other where they touch and agree. -/
def chain (last : Edge) : List Edge → Except EdgeOverlap (List Edge)
  | [] => .ok [last]
  | e :: rest =>
    if e.lo < last.hi then .error ⟨e.group, last.group⟩
    else if last.hi = e.lo && last.agrees e then chain { last with hi := e.hi } rest
    else (last :: ·) <$> chain e rest

/-- Join edges sorted by their groups. -/
def joinSorted : List Edge → Except EdgeOverlap (List Edge)
  | [] => .ok []
  | e :: rest => chain e rest

theorem canonical_chain {last : Edge} {rest l : List Edge} (h : chain last rest = .ok l)
    (hn : ∀ e ∈ last :: rest, e.lo < e.hi) :
    Edge.Canonical l ∧ ∃ e l', l = e :: l' ∧ e.lo = last.lo ∧ e.link = last.link := by
  induction rest generalizing last l with
  | nil =>
    obtain rfl : [last] = l := by simpa [chain] using h
    exact ⟨⟨hn, List.pairwise_singleton ..⟩, last, [], rfl, rfl, rfl⟩
  | cons e rest ih =>
    have hlast := hn last (by simp)
    have he := hn e (by simp)
    simp only [chain] at h
    split at h
    · cases h
    · split at h
      · -- the two groups are joined into one
        refine @ih { last with hi := e.hi } l h fun f hf => ?_
        rcases List.mem_cons.1 hf with rfl | hf
        · simp only
          omega
        · exact hn f (by simp [hf])
      · rename_i hle hj
        cases hc : chain e rest with
        | error o => simp [hc, Functor.map, Except.map] at h
        | ok t =>
          obtain rfl : last :: t = l := by simpa [hc, Functor.map, Except.map] using h
          obtain ⟨⟨hnt, hat⟩, f, t', rfl, hlo, hlink⟩ := ih hc fun f hf => hn f (by simp [hf])
          have hf : last.Precedes f :=
            ⟨by omega, fun hhi hl => hj (by simp [← hlo, hhi, Edge.agrees_iff, hl, hlink])⟩
          refine ⟨⟨?_, List.pairwise_cons.2 ⟨?_, hat⟩⟩, last, _, rfl, rfl, rfl⟩
          · intro a ha
            rcases List.mem_cons.1 ha with rfl | ha
            · exact hlast
            · exact hnt a ha
          · intro a ha
            rcases List.mem_cons.1 ha with rfl | ha
            · exact hf
            · have hfa := ((List.pairwise_cons.1 hat).1 a ha).1
              have := hnt f (by simp)
              have := hf.1
              exact ⟨by omega, fun hhi => absurd hhi (by omega)⟩

theorem canonical_joinSorted {edges l : List Edge} (h : joinSorted edges = .ok l)
    (hn : ∀ e ∈ edges, e.lo < e.hi) : Edge.Canonical l := by
  cases edges with
  | nil =>
    obtain rfl : [] = l := by simpa [joinSorted] using h
    exact .nil
  | cons e rest => exact (canonical_chain h hn).1

/-- The edges with a non-empty group, sorted by their groups. -/
def sorted (edges : List Edge) : List Edge :=
  (edges.filter (!·.group.isEmpty)).mergeSort (·.lo ≤ ·.lo)

theorem mem_sorted {edges : List Edge} {e : Edge} : e ∈ sorted edges ↔ e ∈ edges ∧ e.lo < e.hi := by
  simp [sorted, Edge.group]

/-- The map that binds the non-empty groups of the given edges, in any order. -/
def ofEdges (edges : List Edge) : Except EdgeOverlap EdgeMap :=
  match h : joinSorted (sorted edges) with
  | .error overlap => .error overlap
  | .ok l => .ok ⟨l, canonical_joinSorted h fun _ he => (mem_sorted.1 he).2⟩

/-- The map of edges whose groups are known to be disjoint. -/
def ofDisjoint (edges : List Edge) : EdgeMap := (ofEdges edges).toOption.getD ∅

/-- Halve a stretch of `size` places from `base` on: it goes on with the upper half where `p` holds in the
middle, else with the lower half. What is left in the end is a single place. -/
def narrow (p : Edge → Bool) (edges : List Edge) : Nat → Nat → Nat → Nat
  | 0, base, _ => base
  | rounds + 1, base, size =>
    if size ≤ 1 then base
    else
      let middle := base + size / 2
      narrow p edges rounds (if edges[middle]?.any p then middle else base) (size - size / 2)

/-- The number of edges with `p`, if all of them come first. -/
def boundary (p : Edge → Bool) (edges : List Edge) : Nat :=
  let base := narrow p edges edges.length 0 edges.length
  if edges[base]?.any p then base + 1 else base

/-- The edge taken on an ordinal: the first one that does not end before it. -/
def find? (m : EdgeMap) (x : Nat) : Option Edge :=
  m.edges[boundary (·.hi ≤ x) m.edges]?.filter (·.lo ≤ x)

/-- The union of maps without a common ordinal. -/
def mergeAll (maps : List EdgeMap) : Except EdgeOverlap EdgeMap := ofEdges (maps.flatMap edges)

def merge (l r : EdgeMap) : Except EdgeOverlap EdgeMap := mergeAll [l, r]

/-- Replace every edge by its image, kept on its group. -/
def map (m : EdgeMap) (f : Edge → Edge) : EdgeMap :=
  ofDisjoint (m.edges.map fun e => (f e).onGroup e.group)

end EdgeMap

end Polymatch
