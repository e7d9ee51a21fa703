import Polymatch.Proofs.Arena.Checked
import Polymatch.Proofs.Edges.Pieces
import Polymatch.Proofs.Merge.Pair

/-! # Checked merges

A merged state is made of the pieces of a split, so its edges are apart and the check that
they are may be left out. Here is the merge with the check of every state; it never
fails where the merge without it does not.
-/

namespace Polymatch.Checked

open Product (PairNode Progress renumber)

/-- The state that a pair becomes, unless two of its edges share an ordinal. -/
def numbered (n : PairNode) (pairs : Array Discovered) : Except EdgeOverlap Node := do
  let edges ← EdgeMap.ofEdges (n.edges.map (renumber pairs))
  return ⟨edges, n.accept, n.exit⟩

def walk (p : Product) : Nat → Array Discovered → Progress → Except BuildError Progress
  | 0, _, done => .ok done
  | fuel + 1, pairs, done =>
    match pairs[done.nodes.size]? with
    | none => .ok done
    | some d => do
      let n ← p.pairNode d
      let pairs := n.edges.foldl (Product.discover (d.depth + 1)) pairs
      let node ← (numbered n pairs).mapError .overlappingEdges
      walk p fuel pairs ⟨done.nodes.push node, done.ambiguous || n.ambiguous⟩

/-- The merged automaton; any two edges of one state that share an ordinal are an error. -/
def run (p : Product) : Except BuildError Automaton := do
  let fuel := (p.left.stateCount + 1) * (p.right.stateCount + 1)
  let done ← walk p fuel #[⟨⟨some p.left.start, some p.right.start⟩, 0⟩] ⟨#[], false⟩
  let ambiguous := done.ambiguous || p.left.ambiguous || p.right.ambiguous
  return (Automaton.ofNodes done.nodes 0).withAmbiguous ambiguous

variable {p : Product}

theorem numbered_eq {d : Discovered} {n : PairNode} (h : p.pairNode d = .ok n) (pairs : Array Discovered) :
    numbered n pairs = .ok ⟨.ofDisjoint (n.edges.map (renumber pairs)), n.accept, n.exit⟩ := by
  rw [numbered, EdgeMap.ofEdges_eq_ofDisjoint (Product.renumber_apart h pairs)]
  rfl

theorem walk_eq (fuel : Nat) (pairs : Array Discovered) (done : Progress) :
    walk p fuel pairs done = p.walk fuel pairs done := by
  induction fuel generalizing pairs done with
  | zero => rfl
  | succ fuel ih =>
    rw [walk, Product.walk]
    cases pairs[done.nodes.size]? with
    | none => rfl
    | some d =>
      cases hn : p.pairNode d with
      | error e => simp only [hn, bind, Except.bind]
      | ok n => simp only [hn, bind, Except.bind, numbered_eq hn, Except.mapError, ih]

theorem run_eq (p : Product) : run p = p.run := by
  rw [run, walk_eq]
  rfl

/-- The pieces of a split tile the two maps, and whatever edges are put on all of them make up a map;
so no check fails where states are united, preferred or merged. -/
theorem split_rebuilds : (∀ l r : EdgeMap, EdgeMap.Tiles l r (EdgeMap.split l r) ∧
      ∀ edges : List Edge, (edges.map Edge.group).Perm (EdgeMap.split l r).groups →
        ∃ m, EdgeMap.ofEdges edges = .ok m ∧ ∀ x k, m.link? x = some k ↔ Edge.Says edges x k) ∧
    (∀ g a b, unionNodes g a b = .ok (g.unionNodes a b)) ∧
    (∀ g winner loser, preferNodes g winner loser = .ok (g.preferNodes winner loser)) ∧
    ∀ p : Product, run p = p.run := by
  refine ⟨fun l r => ⟨EdgeMap.tiles_split l r, fun edges h => EdgeMap.ofEdges_of_groups_perm h⟩, ?_⟩
  exact ⟨unionNodes_eq, preferNodes_eq, run_eq⟩

/-- Two groups with a gap between them. -/
def gapped : EdgeMap where
  edges := [⟨0, 10, 1, ∅, ∅⟩, ⟨20, 30, 2, ∅, ∅⟩]
  canonical := ⟨by decide, List.pairwise_pair.2 ⟨by decide, fun h => absurd h (by decide)⟩⟩

/-- Two groups across the ends of the gap and behind it. -/
def crossing : EdgeMap where
  edges := [⟨5, 25, 3, ∅, ∅⟩, ⟨28, 40, 4, ∅, ∅⟩]
  canonical := ⟨by decide, List.pairwise_pair.2 ⟨by decide, fun h => absurd h (by decide)⟩⟩

/-- Two maps whose groups cross, cut into seven pieces and made up again in another order. -/
theorem split_rebuilds_crossedGroups :
    let parts := EdgeMap.split gapped crossing
    let edges := (parts.both.map fun s => s.left.onGroup s.group) ++ parts.rightOnly ++ parts.leftOnly
    parts.groups = [⟨0, 5⟩, ⟨25, 28⟩, ⟨10, 20⟩, ⟨30, 40⟩, ⟨5, 10⟩, ⟨20, 25⟩, ⟨28, 30⟩] ∧
      (edges.map Edge.group).Perm parts.groups ∧ ∃ m, EdgeMap.ofEdges edges = .ok m := by
  intro parts edges
  have hperm : (edges.map Edge.group).Perm parts.groups := by decide +kernel
  obtain ⟨m, hm, -⟩ := (split_rebuilds.1 gapped crossing).2 edges hperm
  exact ⟨by decide +kernel, hperm, m, hm⟩

end Polymatch.Checked
