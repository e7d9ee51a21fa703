import Polymatch.Automaton.Basic
import Polymatch.EdgeSplit
import Polymatch.Error

/-! # Merging automata

Two automata are merged by walking both at once over pairs of states. A side that
has no edge on a symbol is dropped from the pair, and the other side goes on
alone. Merging alternate paths shares pattern ids and slots between the sides;
merging alternate patterns moves those of the right side past the left side's.
-/

namespace Polymatch

/-- Options of merging alternate patterns. -/
structure MergeOptions where
  /-- Shift of the right side's pattern ids; the left side's pattern count by default. -/
  idOffset? : Option Nat
  /-- Shift of the right side's slots; the left side's slot count by default. -/
  captureOffset? : Option Nat
  /-- Bound on the depth of pairs that share a symbol; there may be none. -/
  maxDepth? : Option Nat
  /-- Whether both sides may accept one input. -/
  allowOverlap : Bool
  deriving DecidableEq, Repr

namespace MergeOptions

def defaultMaxDepth : Nat := 10000

def standard : MergeOptions := ⟨none, none, some defaultMaxDepth, false⟩

instance : Inhabited MergeOptions := ⟨standard⟩

end MergeOptions

/-- The states of both sides that a merged state stands for; a side that has died is missing. -/
structure StatePair where
  left? : Option Nat
  right? : Option Nat
  deriving DecidableEq, Repr

/-- A pair with the depth at which it was discovered. -/
structure Discovered where
  pair : StatePair
  depth : Nat
  deriving DecidableEq, Repr

structure Product where
  left : Automaton
  right : Automaton
  idOffset : Nat
  captureOffset : Nat
  maxDepth? : Option Nat
  allowOverlap : Bool
  /-- Both sides describe one pattern and share its slots. -/
  samePattern : Bool

namespace Product

/-- Edges whose targets are pairs of states: a placeholder edge with the pair it leads to. -/
abbrev PairEdge := Edge × StatePair

/-- What a pair of states becomes: its edges, accept set and exit, and whether the marks of both
sides differ where they meet. -/
structure PairNode where
  edges : List PairEdge
  accept : IdSet
  exit : Marks
  ambiguous : Bool

def leftAlone (e : Edge) : PairEdge := (e, ⟨some e.next, none⟩)

def rightAlone (e : Edge) : PairEdge := (e, ⟨none, some e.next⟩)

/-- An edge of the right side in the merged numbering. -/
def shiftEdge (p : Product) (e : Edge) : Edge :=
  { e with routes := e.routes.shift p.idOffset, marks := e.marks.shift p.captureOffset }

/-- A state of the right side in the merged numbering. -/
def shiftNode (p : Product) (n : Node) : Node :=
  ⟨n.edges.map p.shiftEdge, n.accept.shift p.idOffset, n.exit.shift p.captureOffset⟩

def copyLeft (n : Node) : PairNode := ⟨n.edges.edges.map leftAlone, n.accept, n.exit, false⟩

def copyRight (p : Product) (n : Node) : PairNode :=
  let n := p.shiftNode n
  ⟨n.edges.edges.map rightAlone, n.accept, n.exit, false⟩

def sharedEdge (s : SharedGroup) : PairEdge :=
  (⟨s.group.lo, s.group.hi, 0, s.left.routes ∪ s.right.routes, s.left.marks ∪ s.right.marks⟩,
    ⟨some s.left.next, some s.right.next⟩)

/-- Whether the depth bound forbids to go on from a depth on a shared symbol. -/
def tooDeep (p : Product) (depth : Nat) : Option Nat := p.maxDepth?.filter (· < depth + 1)

/-- The merge of two states at a depth. -/
def both (p : Product) (l r : Node) (depth : Nat) : Except BuildError PairNode :=
  let r := p.shiftNode r
  let ends := l.isAccepting && r.isAccepting
  if ends && !p.allowOverlap then .error (.overlappingAccept l.accept.toList r.accept.toList)
  else
    let parts := EdgeMap.split l.edges r.edges
    match if parts.both.isEmpty then none else p.tooDeep depth with
    | some bound => .error (.mergeDepthExceeded bound)
    | none =>
      .ok {
        edges := parts.leftOnly.map leftAlone ++ parts.rightOnly.map rightAlone ++
          parts.both.map sharedEdge
        accept := l.accept ∪ r.accept
        exit := l.exit ∪ r.exit
        ambiguous := p.samePattern &&
          ((ends && l.exit ≠ r.exit) || parts.both.any fun s => s.left.marks ≠ s.right.marks) }

def pairNode (p : Product) (d : Discovered) : Except BuildError PairNode :=
  match d.pair with
  | ⟨some l, some r⟩ => p.both (p.left.node l) (p.right.node r) d.depth
  | ⟨some l, none⟩ => .ok (copyLeft (p.left.node l))
  | ⟨none, some r⟩ => .ok (p.copyRight (p.right.node r))
  | ⟨none, none⟩ => .ok ⟨[], ∅, ∅, false⟩

/-- Add the target of an edge to the pairs discovered so far. -/
def discover (depth : Nat) (pairs : Array Discovered) (e : PairEdge) : Array Discovered :=
  if pairs.any (·.pair = e.2) then pairs else pairs.push ⟨e.2, depth⟩

/-- The edge to the place of its target among the discovered pairs. -/
def renumber (pairs : Array Discovered) (e : PairEdge) : Edge :=
  { e.1 with next := (pairs.findIdx? (·.pair = e.2)).getD 0 }

/-- States built so far, and whether some of them met different marks. -/
structure Progress where
  nodes : Array Node
  ambiguous : Bool

def walk (p : Product) : Nat → Array Discovered → Progress → Except BuildError Progress
  | 0, _, done => .ok done
  | fuel + 1, pairs, done =>
    match pairs[done.nodes.size]? with
    | none => .ok done
    | some d => do
      let n ← p.pairNode d
      let pairs := n.edges.foldl (discover (d.depth + 1)) pairs
      let node := ⟨.ofDisjoint (n.edges.map (renumber pairs)), n.accept, n.exit⟩
      p.walk fuel pairs ⟨done.nodes.push node, done.ambiguous || n.ambiguous⟩

/-- The merged automaton; there are fewer pairs than `(left + 1) * (right + 1)`. -/
def run (p : Product) : Except BuildError Automaton := do
  let fuel := (p.left.stateCount + 1) * (p.right.stateCount + 1)
  let done ← p.walk fuel #[⟨⟨some p.left.start, some p.right.start⟩, 0⟩] ⟨#[], false⟩
  let ambiguous := done.ambiguous || p.left.ambiguous || p.right.ambiguous
  return (Automaton.ofNodes done.nodes 0).withAmbiguous ambiguous

end Product

namespace Automaton

/-- The walk that merges alternate paths of one pattern. -/
def pathProduct (a b : Automaton) : Product := ⟨a, b, 0, 0, none, true, true⟩

/-- The automaton that accepts what either side accepts, with shared ids. -/
def mergePath (a b : Automaton) : Automaton := (a.pathProduct b).run.toOption.getD a

/-- The walk that merges alternate patterns. -/
def patternProduct (a b : Automaton) (options : MergeOptions) : Product where
  left := a
  right := b
  idOffset := options.idOffset?.getD a.patterns
  captureOffset := options.captureOffset?.getD a.captures
  maxDepth? := options.maxDepth?
  allowOverlap := options.allowOverlap
  samePattern := false

/-- The automaton that runs the patterns of both sides at once and keeps them apart. -/
def mergePattern (a b : Automaton) (options : MergeOptions) : Except BuildError Automaton := do
  let p := a.patternProduct b options
  let merged ← p.run
  return (merged.withPatterns (p.idOffset + b.patterns)).withCaptures (p.captureOffset + b.captures)

end Automaton

end Polymatch
