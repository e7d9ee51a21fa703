import Polymatch.Automaton.Merge
import Polymatch.Proofs.Automaton.Runs
import Polymatch.Proofs.Edges.Split

/-! # Merging two states

The merge of two states says of an ordinal what both sides say of it together,
and a side that says nothing of it is missing from the target. It accepts for the
patterns of both sides.
-/

namespace Polymatch

/-- What a pair of states says of an ordinal. -/
structure PairLink where
  routes : IdSet
  marks : Marks
  target : StatePair

namespace Product

open EdgeMap (link?_eq_some)
open Edge (Says)

variable {p : Product} {q : StatePair} {x : Nat}

def shiftLink (p : Product) (k : Link) : Link :=
  ⟨k.next, k.routes.shift p.idOffset, k.marks.shift p.captureOffset⟩

/-- What the left state of a pair says of an ordinal. -/
def leftLink? (p : Product) (q : StatePair) (x : Nat) : Option Link :=
  q.left?.bind fun s => (p.left.node s).edges.link? x

/-- What the right state of a pair says of an ordinal, in the merged numbering. -/
def rightLink? (p : Product) (q : StatePair) (x : Nat) : Option Link :=
  q.right?.bind fun s => ((p.right.node s).edges.link? x).map p.shiftLink

/-- What two sides say together. -/
def together : Option Link → Option Link → Option PairLink
  | none, none => none
  | some a, none => some ⟨a.routes, a.marks, ⟨some a.next, none⟩⟩
  | none, some b => some ⟨b.routes, b.marks, ⟨none, some b.next⟩⟩
  | some a, some b => some ⟨a.routes ∪ b.routes, a.marks ∪ b.marks, ⟨some a.next, some b.next⟩⟩

def pairLink? (p : Product) (q : StatePair) (x : Nat) : Option PairLink :=
  together (p.leftLink? q x) (p.rightLink? q x)

/-- Some edge of a merged state says `k` of `x`. -/
def PairSays (edges : List PairEdge) (x : Nat) (k : PairLink) : Prop :=
  ∃ e ∈ edges, e.1.contains x = true ∧ ⟨e.1.routes, e.1.marks, e.2⟩ = k

theorem pairSays_append {l r : List PairEdge} {k : PairLink} :
    PairSays (l ++ r) x k ↔ PairSays l x k ∨ PairSays r x k := by
  simp only [PairSays, List.mem_append, or_and_right, exists_or]

theorem pairSays_leftAlone {edges : List Edge} {k : PairLink} :
    PairSays (edges.map leftAlone) x k ↔
      ∃ a, Says edges x a ∧ k = ⟨a.routes, a.marks, ⟨some a.next, none⟩⟩ := by
  constructor
  · rintro ⟨_, hm, hx, rfl⟩
    obtain ⟨e, he, rfl⟩ := List.mem_map.1 hm
    exact ⟨e.link, ⟨e, he, hx, rfl⟩, rfl⟩
  · rintro ⟨_, ⟨e, he, hx, rfl⟩, rfl⟩
    exact ⟨_, List.mem_map_of_mem he, hx, rfl⟩

theorem pairSays_rightAlone {edges : List Edge} {k : PairLink} :
    PairSays (edges.map rightAlone) x k ↔
      ∃ b, Says edges x b ∧ k = ⟨b.routes, b.marks, ⟨none, some b.next⟩⟩ := by
  constructor
  · rintro ⟨_, hm, hx, rfl⟩
    obtain ⟨e, he, rfl⟩ := List.mem_map.1 hm
    exact ⟨e.link, ⟨e, he, hx, rfl⟩, rfl⟩
  · rintro ⟨_, ⟨e, he, hx, rfl⟩, rfl⟩
    exact ⟨_, List.mem_map_of_mem he, hx, rfl⟩

theorem pairSays_sharedEdge {l r : EdgeMap} {k : PairLink} :
    PairSays ((EdgeMap.split l r).both.map sharedEdge) x k ↔
      ∃ a b, l.link? x = some a ∧ r.link? x = some b ∧
        k = ⟨a.routes ∪ b.routes, a.marks ∪ b.marks, ⟨some a.next, some b.next⟩⟩ := by
  constructor
  · rintro ⟨_, he, hx, rfl⟩
    obtain ⟨s, hs, rfl⟩ := List.mem_map.1 he
    obtain ⟨ha, hb⟩ := EdgeMap.exists_both.1 ⟨s, hs, hx, rfl, rfl⟩
    exact ⟨_, _, ha, hb, rfl⟩
  · rintro ⟨a, b, ha, hb, rfl⟩
    obtain ⟨s, hs, hx, rfl, rfl⟩ := EdgeMap.exists_both.2 ⟨ha, hb⟩
    exact ⟨_, List.mem_map_of_mem hs, hx, rfl⟩

theorem link?_shiftNode (n : Node) :
    (p.shiftNode n).edges.link? x = (n.edges.link? x).map p.shiftLink :=
  EdgeMap.link?_map (fun _ => rfl) x

theorem isAccepting_shiftNode (n : Node) : (p.shiftNode n).isAccepting = n.isAccepting := by
  rw [Bool.eq_iff_iff, Node.isAccepting_iff, Node.isAccepting_iff]
  constructor
  · rintro ⟨i, hi⟩
    obtain ⟨j, hj, -⟩ := IdSet.mem_shift.1 hi
    exact ⟨j, hj⟩
  · rintro ⟨j, hj⟩
    exact ⟨_, IdSet.mem_shift.2 ⟨j, hj, rfl⟩⟩

/-- What two states become together if nothing forbids to merge them. -/
def meet (p : Product) (l r : Node) : PairNode :=
  let parts := EdgeMap.split l.edges r.edges
  { edges := parts.leftOnly.map leftAlone ++ parts.rightOnly.map rightAlone ++ parts.both.map sharedEdge
    accept := l.accept ∪ r.accept
    exit := l.exit ∪ r.exit
    ambiguous := p.samePattern &&
      ((l.isAccepting && r.isAccepting && l.exit ≠ r.exit) || parts.both.any fun s => s.left.marks ≠ s.right.marks) }

section Both

variable {l r : Node} {depth : Nat}

theorem eq_meet_of_both {n : PairNode} (h : p.both l r depth = .ok n) : n = p.meet l (p.shiftNode r) := by
  simp only [both] at h
  split at h
  · cases h
  · split at h
    · cases h
    · exact (Except.ok.inj h).symm

/-- Two states are not merged if both accept and may not, or if they share symbols too deep. -/
theorem both_eq_error {err : BuildError} (h : p.both l r depth = .error err) :
    (l.isAccepting = true ∧ r.isAccepting = true ∧ p.allowOverlap = false ∧
      err = .overlappingAccept l.accept.toList (r.accept.shift p.idOffset).toList) ∨
    ∃ bound, (EdgeMap.split l.edges (p.shiftNode r).edges).both.isEmpty = false ∧ p.tooDeep depth = some bound ∧
      err = .mergeDepthExceeded bound := by
  simp only [both] at h
  split at h
  · rename_i hends
    rw [isAccepting_shiftNode, Bool.and_eq_true, Bool.and_eq_true, Bool.not_eq_true'] at hends
    exact .inl ⟨hends.1.1, hends.1.2, hends.2, (Except.error.inj h).symm⟩
  · split at h
    · rename_i hdeep
      split at hdeep
      · cases hdeep
      · rename_i hshared
        exact .inr ⟨_, Bool.eq_false_iff.2 hshared, hdeep, (Except.error.inj h).symm⟩
    · cases h

end Both

theorem pairSays_both {l r : Node} {depth : Nat} {n : PairNode} (h : p.both l r depth = .ok n)
    {k : PairLink} : PairSays n.edges x k ↔
      together (l.edges.link? x) ((r.edges.link? x).map p.shiftLink) = some k := by
  simp only [eq_meet_of_both h, meet, pairSays_append, pairSays_leftAlone, pairSays_rightAlone, pairSays_sharedEdge]
  simp only [EdgeMap.says_leftOnly, EdgeMap.says_rightOnly, ← link?_shiftNode]
  cases hl : l.edges.link? x <;> cases hr : (p.shiftNode r).edges.link? x <;>
    simp [together, eq_comm]

/-- The merge of a pair says of every ordinal what its sides say together. -/
theorem pairSays_pairNode {d : Discovered} {n : PairNode} (h : p.pairNode d = .ok n) {k : PairLink} :
    PairSays n.edges x k ↔ p.pairLink? d.pair x = some k := by
  obtain ⟨⟨l?, r?⟩, depth⟩ := d
  simp only [pairLink?, leftLink?, rightLink?]
  cases l? <;> cases r? <;> simp only [pairNode, copyLeft, copyRight] at h
  case none.none =>
    cases h
    simp [PairSays, together]
  case none.some r =>
    cases h
    simp only [pairSays_rightAlone, ← link?_eq_some, link?_shiftNode, Option.bind_some,
      Option.bind_none]
    cases (p.right.node r).edges.link? x <;> simp [together, eq_comm]
  case some.none l =>
    cases h
    simp only [pairSays_leftAlone, ← link?_eq_some, Option.bind_some, Option.bind_none]
    cases (p.left.node l).edges.link? x <;> simp [together, eq_comm]
  case some.some l r =>
    exact pairSays_both h

/-- No ordinal lies on two edges of a merged state. -/
theorem groups_pairNode {d : Discovered} {n : PairNode} (h : p.pairNode d = .ok n) :
    (n.edges.map fun e => e.1.group).Pairwise Interval.Apart := by
  obtain ⟨⟨l?, r?⟩, depth⟩ := d
  cases l? <;> cases r? <;> simp only [pairNode, copyLeft, copyRight] at h
  case none.none =>
    cases h
    exact .nil
  case none.some r =>
    cases h
    rw [List.map_map]
    exact Edge.pairwise_apart_iff.1 (EdgeMap.pairwise_apart _)
  case some.none l =>
    cases h
    rw [List.map_map]
    exact Edge.pairwise_apart_iff.1 (EdgeMap.pairwise_apart _)
  case some.some l r =>
    simp only [eq_meet_of_both h, meet, List.map_append, List.map_map]
    exact EdgeMap.split_apart

/-- The edges of a merged state are apart, wherever their targets are numbered. -/
theorem renumber_apart {d : Discovered} {n : PairNode} (h : p.pairNode d = .ok n) (pairs : Array Discovered) :
    (n.edges.map (renumber pairs)).Pairwise Edge.Apart := by
  rw [Edge.pairwise_apart_iff, List.map_map]
  exact groups_pairNode h

theorem lt_of_mem_pairNode {d : Discovered} {n : PairNode} (h : p.pairNode d = .ok n) {e : PairEdge}
    (he : e ∈ n.edges) : e.1.lo < e.1.hi := by
  obtain ⟨⟨l?, r?⟩, depth⟩ := d
  cases l? <;> cases r? <;> simp only [pairNode, copyLeft, copyRight] at h
  case none.none =>
    cases h
    cases he
  case none.some r =>
    cases h
    obtain ⟨b, hb, rfl⟩ := List.mem_map.1 he
    exact (p.shiftNode (p.right.node r)).edges.canonical.nonempty b hb
  case some.none l =>
    cases h
    obtain ⟨a, ha, rfl⟩ := List.mem_map.1 he
    exact (p.left.node l).edges.canonical.nonempty a ha
  case some.some l r =>
    simp only [eq_meet_of_both h, meet, List.mem_append, List.mem_map] at he
    rcases he with (⟨a, ha, rfl⟩ | ⟨b, hb, rfl⟩) | ⟨s, hs, rfl⟩
    · exact EdgeMap.lt_of_mem_leftOnly ha
    · exact EdgeMap.lt_of_mem_rightOnly hb
    · exact EdgeMap.lt_of_mem_both hs

theorem mem_accept_pairNode {d : Discovered} {n : PairNode} (h : p.pairNode d = .ok n) {i : Nat} :
    i ∈ n.accept ↔ (∃ s, d.pair.left? = some s ∧ i ∈ (p.left.node s).accept) ∨
      ∃ s, d.pair.right? = some s ∧ i ∈ (p.right.node s).accept.shift p.idOffset := by
  obtain ⟨⟨l?, r?⟩, depth⟩ := d
  cases l? <;> cases r? <;> simp only [pairNode, copyLeft, copyRight] at h
  case some.some l r =>
    rw [eq_meet_of_both h]
    simp [meet, shiftNode]
  all_goals
    cases h
    simp [shiftNode]

theorem mem_exit_pairNode {d : Discovered} {n : PairNode} (h : p.pairNode d = .ok n) {m : Mark} :
    m ∈ n.exit ↔ (∃ s, d.pair.left? = some s ∧ m ∈ (p.left.node s).exit) ∨
      ∃ s, d.pair.right? = some s ∧ m ∈ (p.right.node s).exit.shift p.captureOffset := by
  obtain ⟨⟨l?, r?⟩, depth⟩ := d
  cases l? <;> cases r? <;> simp only [pairNode, copyLeft, copyRight] at h
  case some.some l r =>
    rw [eq_meet_of_both h]
    simp [meet, shiftNode]
  all_goals
    cases h
    simp [shiftNode]

end Product

end Polymatch
