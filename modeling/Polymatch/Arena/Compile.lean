import Polymatch.Arena.Resolve
import Polymatch.Error

/-! # Compiling patterns

A pattern is compiled in front of the node that follows it, from right to left.
The marks owed to the last symbol of a pattern, the ends of the groups that it
closes, travel inwards together with its tail. A group whose body can match
nothing also ends on the first edge of its tail, in front of that edge's symbol.
-/

namespace Polymatch

namespace Pattern

mutual

/-- Node that matches the pattern and goes on at `tail`; its last symbols carry `owed`. -/
def attach (σ : Alphabet) (layout : Layout) (p : Pattern) (tail : Nat) (owed : Marks) (g : Arena) :
    Nat × Arena :=
  match p with
  | symbols ranges => g.edge σ ranges tail owed
  | sequence items =>
    let (node, _, g) := attachSequence σ layout items tail owed g
    (node, g)
  | select branches =>
    let (nodes, g) := attachEach σ layout branches tail owed g
    g.unionAll nodes
  | counted body counts =>
    (List.range (counts.getLastD 0)).foldr (fun k (node, g) =>
      let (again, g) := attach σ layout body node owed g
      if hasCount counts k then g.union again tail else (again, g)) (tail, g)
  | loop body min policy =>
    let (marker, g) := g.marker
    let (once, g) := attach σ layout body marker owed g
    let (entry, g) := g.closeLoop marker once tail policy
    if min = 0 then (entry, g)
    else
      (List.range (min - 1)).foldr (fun _ (node, g) => attach σ layout body node owed g)
        (g.unroll marker, g)
  | optional body =>
    let (taken, g) := attach σ layout body tail owed g
    g.union taken tail
  | group label body =>
    match layout.slotOf? label with
    | none => attach σ layout body tail owed g
    | some slot =>
      let (bodyTail, g) := if body.nullable then g.annotate tail (.closing slot false) else (tail, g)
      let (inner, g) := attach σ layout body bodyTail (owed ∪ .closing slot true) g
      g.annotate inner (.opening slot)

/-- The items in front of each other, with the marks owed in front of the first one. -/
def attachSequence (σ : Alphabet) (layout : Layout) (items : List Pattern) (tail : Nat)
    (owed : Marks) (g : Arena) : Nat × Marks × Arena :=
  match items with
  | [] => (tail, owed, g)
  | item :: rest =>
    let (next, owed, g) := attachSequence σ layout rest tail owed g
    let (node, g) := attach σ layout item next owed g
    (node, if item.nullable then owed else ∅, g)

/-- Every branch in front of the same tail. -/
def attachEach (σ : Alphabet) (layout : Layout) (branches : List Pattern) (tail : Nat)
    (owed : Marks) (g : Arena) : List Nat × Arena :=
  match branches with
  | [] => ([], g)
  | branch :: rest =>
    let (node, g) := attach σ layout branch tail owed g
    let (nodes, g) := attachEach σ layout rest tail owed g
    (node :: nodes, g)

end

mutual

/-- The overlap in the first class, in the order of compilation, that names an ordinal twice. -/
def overlap? (σ : Alphabet) : Pattern → Option EdgeOverlap
  | symbols ranges => Arena.classOverlap? σ ranges
  | sequence items => overlapFromRight? σ items
  | select branches => overlapFromLeft? σ branches
  | counted body counts => if counts.getLastD 0 = 0 then none else body.overlap? σ
  | loop body _ _ => body.overlap? σ
  | optional body => body.overlap? σ
  | group _ body => body.overlap? σ

def overlapFromRight? (σ : Alphabet) : List Pattern → Option EdgeOverlap
  | [] => none
  | p :: rest => overlapFromRight? σ rest <|> p.overlap? σ

def overlapFromLeft? (σ : Alphabet) : List Pattern → Option EdgeOverlap
  | [] => none
  | p :: rest => p.overlap? σ <|> overlapFromLeft? σ rest

end

/-- The layout of a pattern whose labels are distinct and whose classes name no ordinal twice. -/
def checkedLayout (p : Pattern) (σ : Alphabet) : Except BuildError Layout :=
  match p.layout with
  | .error label => .error (.duplicateCapture label)
  | .ok layout =>
    match p.overlap? σ with
    | some overlap => .error (.overlappingEdges overlap)
    | none => .ok layout

/-- The automaton of a pattern with the given layout, under pattern id 0. -/
def automaton (p : Pattern) (σ : Alphabet) (layout : Layout) : Automaton :=
  let (start, g) := p.attach σ layout Arena.terminal ∅ .new
  (g.freeze start).1.withCaptures layout.size

/-- The automaton that accepts exactly the pattern, under pattern id 0. -/
def compile (p : Pattern) (σ : Alphabet) : Except BuildError Automaton :=
  (p.checkedLayout σ).map (p.automaton σ)

end Pattern

end Polymatch
