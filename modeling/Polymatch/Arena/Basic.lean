import Polymatch.Alphabet
import Polymatch.Node
import Polymatch.Pattern.Basic

/-! # The construction arena

Automata are built in an arena of nodes. A node is built outright, or a recipe
says how it derives from other nodes: the union of several, a node with marks on
its first edges, a node whose edges win over another's, or a loop marker. Recipes
are shared: equal recipes are one node.

A loop body is compiled in front of an open marker that stands for the loop entry.
Closing the loop points the marker at the entry.
-/

namespace Polymatch

inductive Recipe
  | built
  /-- At least two members, none of them a union. -/
  | union (members : IdSet)
  | annotate (inner : Nat) (marks : Marks)
  /-- On symbols that both bind, the edge of the winner is kept. -/
  | prefer (winner loser : Nat)
  /-- A loop entry; it has no target while the loop is open. -/
  | marker (target? : Option Nat)
  deriving DecidableEq

/-- A number that tells most recipes apart. -/
def Recipe.key : Recipe → Nat
  | built => 0
  | union members => members.toList.foldl (fun key i => (31 * key + i) % UInt32.size) 1
  | annotate inner marks => 3 * inner + marks.size
  | prefer winner loser => 31 * winner + loser
  | marker _ => 0

/-- A recipe with its content, once that is known. The key is kept beside the recipe, so that
looking for a recipe seldom compares long lists of members. -/
structure Slot where
  recipe : Recipe
  node? : Option Node
  key : Nat := recipe.key
  key_eq : key = recipe.key := by rfl

namespace Slot

instance : Inhabited Slot := ⟨{ recipe := .built, node? := none }⟩

/-- The slot has a recipe with a given key; keys are compared first. -/
def holds (slot : Slot) (key : Nat) (recipe : Recipe) : Bool :=
  slot.key == key && slot.recipe = recipe

theorem holds_iff {slot : Slot} {recipe : Recipe} :
    slot.holds recipe.key recipe = true ↔ slot.recipe = recipe := by
  simp only [holds, slot.key_eq, Bool.and_eq_true, beq_iff_eq, decide_eq_true_eq]
  exact ⟨And.right, fun h => ⟨h ▸ rfl, h⟩⟩

end Slot

structure Arena where
  slots : Array Slot
  /-- Closed loop markers with the bodies compiled in front of them. -/
  bodies : List (Nat × Nat)
  /-- Some merge met different marks on alternatives that share a symbol or an end. -/
  ambiguous : Bool

namespace Arena

/-- The node that matches nothing. -/
def nothing : Nat := 0

/-- The node that matches the empty input alone. -/
def terminal : Nat := 1

/-- The arena that holds the two fixed nodes alone. -/
def new : Arena :=
  ⟨#[{ recipe := .built, node? := some .dead },
    { recipe := .built, node? := some { Node.dead with accept := .singleton 0 } }], [], false⟩

instance : Inhabited Arena := ⟨new⟩

def size (g : Arena) : Nat := g.slots.size

def recipe (g : Arena) (i : Nat) : Recipe := (g.slots.getD i default).recipe

def push (g : Arena) (slot : Slot) : Nat × Arena := (g.size, { g with slots := g.slots.push slot })

/-- Store a concrete node. -/
def add (g : Arena) (node : Node) : Nat × Arena := g.push { recipe := .built, node? := some node }

/-- The node with a recipe; a new one unless it exists already. -/
def derive (g : Arena) (recipe : Recipe) : Nat × Arena :=
  let key := recipe.key
  match g.slots.findIdx? (·.holds key recipe) with
  | some i => (i, g)
  | none => g.push { recipe, node? := none }

/-- One edge per range of a class, cut down to the alphabet. -/
def classEdges (σ : Alphabet) (ranges : List Interval) (next : Nat) (marks : Marks) : List Edge :=
  ranges.map fun r => ⟨r.lo, min r.hi σ.limit, next, .singleton 0, marks⟩

/-- The overlap that forbids a class in an edge map. -/
def classOverlap? (σ : Alphabet) (ranges : List Interval) : Option EdgeOverlap :=
  match EdgeMap.ofEdges (classEdges σ ranges nothing ∅) with
  | .error overlap => some overlap
  | .ok _ => none

/-- Node with the edges of a class, all leading to `next`. -/
def edge (g : Arena) (σ : Alphabet) (ranges : List Interval) (next : Nat) (marks : Marks) :
    Nat × Arena :=
  let edges := EdgeMap.ofDisjoint (classEdges σ ranges next marks)
  if edges.isEmpty then (nothing, g) else g.add { Node.dead with edges }

/-- Fresh open loop marker. -/
def marker (g : Arena) : Nat × Arena := g.push { recipe := .marker none, node? := none }

/-- Follow at most `fuel` closed markers. -/
def follow (g : Arena) : Nat → Nat → Nat
  | 0, i => i
  | fuel + 1, i =>
    match g.recipe i with
    | .marker (some entry) => g.follow fuel entry
    | _ => i

/-- The node that a chain of closed markers stands for. -/
def canonical (g : Arena) (i : Nat) : Nat := g.follow g.size i

def isClosedMarker (g : Arena) (i : Nat) : Bool :=
  match g.recipe i with
  | .marker (some _) => true
  | _ => false

def membersWithin (g : Arena) : Nat → Nat → IdSet
  | 0, _ => ∅
  | fuel + 1, i =>
    let i := g.canonical i
    if i = nothing then ∅
    else match g.recipe i with
      | .union members =>
        if members.toList.any g.isClosedMarker then
          members.toList.foldl (fun s m => s ∪ g.membersWithin fuel m) ∅
        else members
      | _ => .singleton i

/-- The atomic alternatives of a node; members that are markers closed by now are expanded. -/
def members (g : Arena) (i : Nat) : IdSet := g.membersWithin (g.size + 1) i

/-- The union of a set of atomic nodes. -/
def unionOf (g : Arena) (members : IdSet) : Nat × Arena :=
  match members.toList with
  | [] => (nothing, g)
  | [i] => (i, g)
  | _ => g.derive (.union members)

/-- Node that accepts what `a` or `b` accepts. -/
def union (g : Arena) (a b : Nat) : Nat × Arena :=
  let a := g.canonical a
  let b := g.canonical b
  if a = b || b = nothing then (a, g)
  else if a = nothing then (b, g)
  else
    let left := g.members a
    let right := g.members b
    if left.includes right then (a, g)
    else if right.includes left then (b, g)
    else g.unionOf (left ∪ right)

/-- Node that accepts what any of the nodes accepts. -/
def unionAll (g : Arena) (nodes : List Nat) : Nat × Arena :=
  nodes.foldl (fun (acc, g) node => g.union acc node) (nothing, g)

def annotateWithin : Nat → Arena → Nat → Marks → Nat × Arena
  | 0, g, inner, _ => (inner, g)
  | fuel + 1, g, inner, marks =>
    let inner := g.canonical inner
    if marks.isEmpty || inner = nothing then (inner, g)
    else match g.recipe inner with
      | .annotate deeper existing => annotateWithin fuel g deeper (existing ∪ marks)
      | _ => g.derive (.annotate inner marks)

/-- `inner` with marks added to every first edge, and to its exit if it accepts. -/
def annotate (g : Arena) (inner : Nat) (marks : Marks) : Nat × Arena :=
  annotateWithin (g.size + 1) g inner marks

/-- Node that accepts what either side accepts, with the winner's edges on shared symbols. -/
def prefer (g : Arena) (winner loser : Nat) : Nat × Arena :=
  let winner := g.canonical winner
  let loser := g.canonical loser
  if winner = loser || loser = nothing then (winner, g)
  else if winner = nothing then (loser, g)
  else g.derive (.prefer winner loser)

/-- An arena together with the nodes that a subtraction has dealt with so far. -/
structure Subtraction where
  done : List (Nat × Nat)
  arena : Arena

/-- Take something out of some nodes, one after the other. -/
def subtractEach (visit : Nat → Subtraction → Nat × Subtraction) :
    List Nat → Subtraction → List Nat × Subtraction
  | [], s => ([], s)
  | i :: rest, s =>
    let (first, s) := visit i s
    let (others, s) := subtractEach visit rest s
    (first :: others, s)

/-- Take something out of the operands of the recipe of a node. -/
def subtractFrom (visit : Nat → Subtraction → Nat × Subtraction) (i : Nat) (s : Subtraction) :
    Nat × Subtraction :=
  match s.arena.recipe i with
  | .built => (i, s)
  | .marker none => (i, s)
  | .marker (some entry) =>
    let (rest, s) := visit entry s
    (if rest = entry then i else rest, s)
  | .union members =>
    let (rest, s) := subtractEach visit members.toList s
    if rest = members.toList then (i, s)
    else
      let (result, arena) := s.arena.unionAll rest
      (result, { s with arena })
  | .annotate inner marks =>
    let (rest, s) := visit inner s
    if rest = inner then (i, s)
    else
      let (result, arena) := s.arena.annotate rest marks
      (result, { s with arena })
  | .prefer winner loser =>
    let (w, s) := visit winner s
    let (l, s) := visit loser s
    if w = winner && l = loser then (i, s)
    else
      let (result, arena) := s.arena.prefer w l
      (result, { s with arena })

/-- Take `removed` out of a node, as deep as fuel lasts. -/
def subtractWithin (removed : IdSet) : Nat → Nat → Subtraction → Nat × Subtraction
  | 0, i, s => (i, s)
  | fuel + 1, i, s =>
    if removed.contains i then (nothing, s)
    else match s.done.lookup i with
      | some result => (result, s)
      | none =>
        let (result, s) :=
          subtractFrom (subtractWithin removed fuel) i { s with done := (i, i) :: s.done }
        (result, { s with done := (i, result) :: s.done })

/-- `node` without the members of `remove` among its own alternatives; what lies behind edges
stays as it is. -/
def subtract (g : Arena) (node remove : Nat) : Nat × Arena :=
  let (result, s) := subtractWithin (g.members remove) (g.size + 1) node ⟨[], g⟩
  (result, s.arena)

def isOpenMarker (g : Arena) (i : Nat) : Bool :=
  match g.slots[i]? with
  | some slot => slot.recipe = .marker none
  | none => false

/-- Point a marker at its loop entry. -/
def setEntry (g : Arena) (marker entry : Nat) : Arena :=
  { g with slots := g.slots.modify marker fun slot =>
    { recipe := .marker (some entry), node? := slot.node? } }

/-- Build the loop entry from a body compiled in front of an open marker and from the loop's
tail, and point the marker at it. -/
def closeLoop (g : Arena) (marker body tail : Nat) (policy : LoopPolicy) : Nat × Arena :=
  let (once, g) := g.subtract body marker
  let (entry, g) := match policy with
    | .plain => g.union once tail
    | .extending => g.prefer once tail
    | .limiting => g.prefer tail once
  let g := g.setEntry marker entry
  (entry, { g with bodies := (marker, body) :: g.bodies })

/-- One mandatory pass through a closed loop, leading back to its entry. -/
def unroll (g : Arena) (marker : Nat) : Nat := (g.bodies.lookup marker).getD (g.canonical marker)

end Arena

end Polymatch
