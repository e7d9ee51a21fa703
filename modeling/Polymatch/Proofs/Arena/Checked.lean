import Polymatch.Arena.Compile
import Polymatch.Proofs.Edges.Split

/-! # Checked construction

Every map that comes up while a node is resolved or an automaton is numbered is made of
edges that are apart, so it is safe to leave out the check that they are. Here is the
construction with the check in every place; it never fails.
-/

namespace Polymatch

variable {α : Type} {g : Arena} {visit : Nat → Arena → Node × Arena}

namespace EdgeMap

theorem ofEdges_eq_ofDisjoint {edges : List Edge} (h : edges.Pairwise Edge.Apart) :
    ofEdges edges = .ok (ofDisjoint edges) := by
  obtain ⟨m, hm⟩ := ofEdges_of_apart h
  rw [ofDisjoint, hm]
  rfl

/-- The pieces of a split are apart, whatever edges are put on the shared ones. -/
theorem join_apart {l r : EdgeMap} {edges : List Edge}
    (h : edges.map Edge.group = (split l r).both.map SharedGroup.group) :
    ((split l r).leftOnly ++ (split l r).rightOnly ++ edges).Pairwise Edge.Apart := by
  rw [Edge.pairwise_apart_iff, List.map_append, List.map_append, h]
  exact split_apart

end EdgeMap

theorem Arena.groups_unionSharedAll (g : Arena) (shared : List SharedGroup) :
    (g.unionSharedAll shared).1.map Edge.group = shared.map SharedGroup.group := by
  induction shared generalizing g with
  | nil => rfl
  | cons s rest ih =>
    rw [Arena.unionSharedAll, List.map_cons, List.map_cons, ih]
    rfl

namespace Checked

/-- The image of a map, unless two of its groups share an ordinal. -/
def map (m : EdgeMap) (f : Edge → Edge) : Except EdgeOverlap EdgeMap :=
  EdgeMap.ofEdges (m.edges.map fun e => (f e).onGroup e.group)

def overlay (n : Node) (marks : Marks) : Except EdgeOverlap Node := do
  let edges ← map n.edges fun e => { e with marks := e.marks ∪ marks }
  return { n.overlay marks with edges }

def unionNodes (g : Arena) (a b : Node) : Except EdgeOverlap (Node × Arena) := do
  let parts := EdgeMap.split a.edges b.edges
  let (shared, g) := g.unionSharedAll parts.both
  let edges ← EdgeMap.ofEdges (parts.leftOnly ++ parts.rightOnly ++ shared)
  return (⟨edges, a.accept ∪ b.accept, a.exit ∪ b.exit⟩, g.noteExits a b)

def preferNodes (g : Arena) (winner loser : Node) : Except EdgeOverlap (Node × Arena) := do
  let parts := EdgeMap.split winner.edges loser.edges
  let shared := parts.both.map fun s => s.left.onGroup s.group
  let edges ← EdgeMap.ofEdges (parts.leftOnly ++ parts.rightOnly ++ shared)
  return (⟨edges, winner.accept ∪ loser.accept, winner.exit ∪ loser.exit⟩, g.noteExits winner loser)

def resolveUnion (visit : Nat → Arena → Except EdgeOverlap (Node × Arena)) :
    List Nat → Node → Arena → Except EdgeOverlap (Node × Arena)
  | [], acc, g => .ok (acc, g)
  | i :: rest, acc, g => do
    let (node, g) ← visit i g
    let (acc, g) ← unionNodes g acc node
    resolveUnion visit rest acc g

def resolveRecipe (visit : Nat → Arena → Except EdgeOverlap (Node × Arena)) (recipe : Recipe) (g : Arena) :
    Except EdgeOverlap (Node × Arena) :=
  match recipe with
  | .built => .ok (.dead, g)
  | .marker _ => .ok (.dead, g)
  | .union members => resolveUnion visit members.toList .dead g
  | .annotate inner marks => do
    let (node, g) ← visit inner g
    let node ← overlay node marks
    return (node, g)
  | .prefer winner loser => do
    let (w, g) ← visit winner g
    let (l, g) ← visit loser g
    preferNodes g w l

def resolveWithin : Nat → List Nat → Nat → Arena → Except EdgeOverlap (Node × Arena)
  | 0, _, _, g => .ok (.dead, g)
  | fuel + 1, busy, i, g =>
    let i := g.canonical i
    match (g.slots.getD i default).node? with
    | some node => .ok (node, g)
    | none =>
      if busy.contains i then .ok (.dead, g)
      else do
        let (node, g) ← resolveRecipe (resolveWithin fuel (i :: busy)) (g.recipe i) g
        return (node, g.setNode i node)

def resolve (g : Arena) (i : Nat) : Except EdgeOverlap (Node × Arena) := resolveWithin (g.size + 1) [] i g

def freezeWithin : Nat → Arena → Array Nat → Array Node → Except EdgeOverlap (Array Node × Arena)
  | 0, g, _, nodes => .ok (nodes, g)
  | fuel + 1, g, order, nodes =>
    match order[nodes.size]? with
    | none => .ok (nodes, g)
    | some i => do
      let (node, g) ← resolve g i
      let order := node.edges.edges.foldl g.discover order
      let edges ← map node.edges (g.renumber order)
      freezeWithin fuel g order (nodes.push { node with edges })

def freeze (g : Arena) (start : Nat) : Except EdgeOverlap (Automaton × Arena) := do
  let (nodes, g) ← freezeWithin (Nat.pow 2 g.size + g.size) g #[g.canonical start] #[]
  return ((Automaton.ofNodes nodes 0).withAmbiguous g.ambiguous, g)

def automaton (p : Pattern) (σ : Alphabet) (layout : Layout) : Except EdgeOverlap Automaton := do
  let (start, g) := p.attach σ layout Arena.terminal ∅ .new
  let (a, _) ← freeze g start
  return a.withCaptures layout.size

/-- Compile a pattern; any two bindings of one map that share an ordinal are an error. -/
def compile (p : Pattern) (σ : Alphabet) : Except BuildError Automaton := do
  let layout ← p.checkedLayout σ
  (automaton p σ layout).mapError .overlappingEdges

theorem map_eq (m : EdgeMap) (f : Edge → Edge) : map m f = .ok (m.map f) := by
  have hapart : (m.edges.map fun e => (f e).onGroup e.group).Pairwise Edge.Apart :=
    List.pairwise_map.2 m.pairwise_apart
  exact EdgeMap.ofEdges_eq_ofDisjoint hapart

theorem overlay_eq (n : Node) (marks : Marks) : overlay n marks = .ok (n.overlay marks) := by
  rw [overlay, map_eq]
  rfl

theorem unionNodes_eq (g : Arena) (a b : Node) : unionNodes g a b = .ok (g.unionNodes a b) := by
  have hapart := EdgeMap.join_apart (g.groups_unionSharedAll (EdgeMap.split a.edges b.edges).both)
  simp only [unionNodes, EdgeMap.ofEdges_eq_ofDisjoint hapart]
  rfl

theorem preferNodes_eq (g : Arena) (winner loser : Node) :
    preferNodes g winner loser = .ok (g.preferNodes winner loser) := by
  have hgroups : ((EdgeMap.split winner.edges loser.edges).both.map fun s => s.left.onGroup s.group).map Edge.group =
      (EdgeMap.split winner.edges loser.edges).both.map SharedGroup.group := by
    rw [List.map_map]
    rfl
  simp only [preferNodes, EdgeMap.ofEdges_eq_ofDisjoint (EdgeMap.join_apart hgroups)]
  rfl

variable {checked : Nat → Arena → Except EdgeOverlap (Node × Arena)}

theorem resolveUnion_eq (h : ∀ i g, checked i g = .ok (visit i g)) (members : List Nat) (acc : Node) (g : Arena) :
    resolveUnion checked members acc g = .ok (Arena.resolveUnion visit members acc g) := by
  induction members generalizing acc g with
  | nil => rfl
  | cons i rest ih =>
    rw [resolveUnion, h, Arena.resolveUnion]
    simp only [bind, Except.bind, unionNodes_eq, ih]

theorem resolveRecipe_eq (h : ∀ i g, checked i g = .ok (visit i g)) (recipe : Recipe) (g : Arena) :
    resolveRecipe checked recipe g = .ok (Arena.resolveRecipe visit recipe g) := by
  cases recipe with
  | built => rfl
  | marker target? => rfl
  | union members => exact resolveUnion_eq h members.toList .dead g
  | annotate inner marks =>
    simp only [resolveRecipe, h, bind, Except.bind, overlay_eq]
    rfl
  | prefer winner loser =>
    simp only [resolveRecipe, h, bind, Except.bind, preferNodes_eq]
    rfl

theorem resolveWithin_eq (fuel : Nat) (busy : List Nat) (i : Nat) (g : Arena) :
    resolveWithin fuel busy i g = .ok (Arena.resolveWithin fuel busy i g) := by
  induction fuel generalizing busy i g with
  | zero => rfl
  | succ fuel ih =>
    rw [resolveWithin, Arena.resolveWithin]
    dsimp only
    cases (g.slots.getD (g.canonical i) default).node? with
    | some node => rfl
    | none =>
      dsimp only
      split
      · rfl
      · rw [resolveRecipe_eq (ih _)]
        rfl

theorem resolve_eq (g : Arena) (i : Nat) : resolve g i = .ok (g.resolve i) := resolveWithin_eq ..

theorem freezeWithin_eq (fuel : Nat) (g : Arena) (order : Array Nat) (nodes : Array Node) :
    freezeWithin fuel g order nodes = .ok (Arena.freezeWithin fuel g order nodes) := by
  induction fuel generalizing g order nodes with
  | zero => rfl
  | succ fuel ih =>
    rw [freezeWithin, Arena.freezeWithin]
    cases order[nodes.size]? with
    | none => rfl
    | some i => simp only [resolve_eq, bind, Except.bind, map_eq, ih]

theorem freeze_eq (g : Arena) (start : Nat) : freeze g start = .ok (g.freeze start) := by
  rw [freeze, freezeWithin_eq]
  rfl

/-- The check never fails behind the ones on labels and classes. -/
theorem compile_eq (p : Pattern) (σ : Alphabet) : compile p σ = p.compile σ := by
  rw [compile, Pattern.compile]
  cases p.checkedLayout σ with
  | error e => rfl
  | ok layout =>
    simp only [bind, Except.bind, automaton, freeze_eq]
    rfl

end Checked

end Polymatch
