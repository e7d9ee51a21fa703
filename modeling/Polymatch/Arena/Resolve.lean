import Polymatch.Arena.Basic
import Polymatch.Automaton.Basic
import Polymatch.EdgeSplit

/-! # Resolving and freezing

Resolving works out the content of a node from its recipe. Where two members of a
union bind the same symbol, the edge leads to the union of both targets, which is
a recipe again; freezing a node resolves all that is reachable from it into a
dense automaton. This is the subset construction, done on demand.
-/

namespace Polymatch

namespace Arena

/-- Record that two alternatives end with different marks. -/
def noteExits (g : Arena) (a b : Node) : Arena :=
  if a.isAccepting && b.isAccepting && a.exit ≠ b.exit then { g with ambiguous := true } else g

/-- The edge on a shared group leads to the union of both targets. -/
def unionShared (g : Arena) (s : SharedGroup) : Edge × Arena :=
  let g := if s.left.marks ≠ s.right.marks then { g with ambiguous := true } else g
  let (next, g) := g.union s.left.next s.right.next
  (⟨s.group.lo, s.group.hi, next, s.left.routes ∪ s.right.routes, s.left.marks ∪ s.right.marks⟩, g)

def unionSharedAll (g : Arena) : List SharedGroup → List Edge × Arena
  | [] => ([], g)
  | s :: rest =>
    let (e, g) := g.unionShared s
    let (es, g) := g.unionSharedAll rest
    (e :: es, g)

/-- The node that has the edges of both nodes. -/
def unionNodes (g : Arena) (a b : Node) : Node × Arena :=
  let parts := EdgeMap.split a.edges b.edges
  let (shared, g) := g.unionSharedAll parts.both
  (⟨.ofDisjoint (parts.leftOnly ++ parts.rightOnly ++ shared), a.accept ∪ b.accept, a.exit ∪ b.exit⟩,
    g.noteExits a b)

/-- The node that has the winner's edges, and the loser's on all other symbols. -/
def preferNodes (g : Arena) (winner loser : Node) : Node × Arena :=
  let parts := EdgeMap.split winner.edges loser.edges
  let shared := parts.both.map fun s => s.left.onGroup s.group
  (⟨.ofDisjoint (parts.leftOnly ++ parts.rightOnly ++ shared), winner.accept ∪ loser.accept,
    winner.exit ∪ loser.exit⟩, g.noteExits winner loser)

def setNode (g : Arena) (i : Nat) (node : Node) : Arena :=
  { g with slots := g.slots.modify i fun slot => { slot with node? := some node } }

/-- The union of a node with the contents of some nodes. -/
def resolveUnion (visit : Nat → Arena → Node × Arena) : List Nat → Node → Arena → Node × Arena
  | [], acc, g => (acc, g)
  | i :: rest, acc, g =>
    let (node, g) := visit i g
    let (acc, g) := g.unionNodes acc node
    resolveUnion visit rest acc g

/-- Content of a recipe, from the contents of the nodes that it names. -/
def resolveRecipe (visit : Nat → Arena → Node × Arena) (recipe : Recipe) (g : Arena) : Node × Arena :=
  match recipe with
  | .built => (.dead, g)
  | .marker _ => (.dead, g)
  | .union members => resolveUnion visit members.toList .dead g
  | .annotate inner marks =>
    let (node, g) := visit inner g
    (node.overlay marks, g)
  | .prefer winner loser =>
    let (w, g) := visit winner g
    let (l, g) := visit loser g
    g.preferNodes w l

/-- Content of a node; `busy` are the nodes being worked out, and one of them reached again
counts as empty. -/
def resolveWithin : Nat → List Nat → Nat → Arena → Node × Arena
  | 0, _, _, g => (.dead, g)
  | fuel + 1, busy, i, g =>
    let i := g.canonical i
    match (g.slots.getD i default).node? with
    | some node => (node, g)
    | none =>
      if busy.contains i then (.dead, g)
      else
        let (node, g) := resolveRecipe (resolveWithin fuel (i :: busy)) (g.recipe i) g
        (node, g.setNode i node)

/-- Content of a node, worked out where it is not known yet. -/
def resolve (g : Arena) (i : Nat) : Node × Arena := resolveWithin (g.size + 1) [] i g

/-- Append the target of an edge to the nodes discovered so far. -/
def discover (g : Arena) (order : Array Nat) (e : Edge) : Array Nat :=
  let target := g.canonical e.next
  if order.contains target then order else order.push target

/-- Replace the target of an edge by its place among the discovered nodes. -/
def renumber (g : Arena) (order : Array Nat) (e : Edge) : Edge :=
  { e with next := (order.idxOf? (g.canonical e.next)).getD 0 }

def freezeWithin : Nat → Arena → Array Nat → Array Node → Array Node × Arena
  | 0, g, _, nodes => (nodes, g)
  | fuel + 1, g, order, nodes =>
    match order[nodes.size]? with
    | none => (nodes, g)
    | some i =>
      let (node, g) := g.resolve i
      let order := node.edges.edges.foldl g.discover order
      freezeWithin fuel g order (nodes.push { node with edges := node.edges.map (g.renumber order) })

/-- Resolve everything reachable from a node into an automaton. Besides the nodes of the arena
only unions of them can be reached, which bounds the number of states. -/
def freeze (g : Arena) (start : Nat) : Automaton × Arena :=
  let (nodes, g) := freezeWithin (Nat.pow 2 g.size + g.size) g #[g.canonical start] #[]
  ((Automaton.ofNodes nodes 0).withAmbiguous g.ambiguous, g)

end Arena

end Polymatch
