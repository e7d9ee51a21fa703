import Polymatch.Group.Captured
import Polymatch.Group.Layout
import Polymatch.Pattern.Basic

/-! # Replay programs

Where the marks on the edges of an automaton are ambiguous, the groups of a match
are found by replaying the matched input through a nondeterministic program of the
pattern. The threads of a replay are kept in order of priority: earlier branches
come first, and a loop is continued before it is left, unless it is limiting. The
first thread that accepts at the end of the input decides the groups.
-/

namespace Polymatch

/-- An instruction; the operands named `next` are addresses of instructions. -/
inductive Instr
  | accept
  /-- Go on at both addresses, with priority for the first. -/
  | split (first second : Nat)
  /-- Consume one ordinal out of some intervals. -/
  | symbols (ranges : List Interval) (next : Nat)
  /-- Open an occurrence of the group declared at a place counted from 0. -/
  | opening (group next : Nat)
  /-- Close the latest occurrence of a group. -/
  | closing (group next : Nat)
  deriving DecidableEq, Repr

instance : Inhabited Instr := ⟨.accept⟩

structure Program where
  code : Array Instr
  start : Nat
  /-- Number of groups. -/
  groups : Nat
  deriving DecidableEq, Repr

namespace Program

/-- Append an instruction; answers its address. -/
def place (instr : Instr) (code : Array Instr) : Nat × Array Instr := (code.size, code.push instr)

def loopSplit (policy : LoopPolicy) (again leave : Nat) : Instr :=
  match policy with
  | .limiting => .split leave again
  | .plain => .split again leave
  | .extending => .split again leave

mutual

/-- Append code that matches a pattern and goes on at `next`; answers its entry. -/
def emit (layout : Layout) (p : Pattern) (next : Nat) (code : Array Instr) : Nat × Array Instr :=
  match p with
  | .symbols ranges => place (.symbols ranges next) code
  | .sequence items => emitSequence layout items next code
  | .select branches => emitSelect layout branches next code
  | .counted body counts =>
    (List.range (counts.getLastD 0)).foldr (fun k (entry, code) =>
      let (again, code) := emit layout body entry code
      if Pattern.hasCount counts k then place (.split again next) code else (again, code)) (next, code)
  | .loop body min policy =>
    let (fork, code) := place .accept code
    let (again, code) := emit layout body fork code
    let code := code.setIfInBounds fork (loopSplit policy again next)
    (List.range min).foldr (fun _ (entry, code) => emit layout body entry code) (fork, code)
  | .optional body =>
    let (taken, code) := emit layout body next code
    place (.split taken next) code
  | .group label body =>
    match layout.labels.idxOf? label with
    | none => emit layout body next code
    | some group =>
      let (close, code) := place (.closing group next) code
      let (inner, code) := emit layout body close code
      place (.opening group inner) code

def emitSequence (layout : Layout) (items : List Pattern) (next : Nat) (code : Array Instr) :
    Nat × Array Instr :=
  match items with
  | [] => (next, code)
  | item :: rest =>
    let (next, code) := emitSequence layout rest next code
    emit layout item next code

def emitSelect (layout : Layout) (branches : List Pattern) (next : Nat) (code : Array Instr) :
    Nat × Array Instr :=
  match branches with
  | [] => place (.symbols [] next) code
  | [branch] => emit layout branch next code
  | branch :: rest =>
    let (entry, code) := emitSelect layout rest next code
    let (first, code) := emit layout branch next code
    place (.split first entry) code

end

def ofPattern (p : Pattern) (layout : Layout) : Program :=
  let (start, code) := emit layout p 0 #[.accept]
  ⟨code, start, layout.size⟩

def size (p : Program) : Nat := p.code.size

/-- Occurrences of every group, latest first. -/
abbrev Groups := List (List Span)

/-- A thread at an instruction that accepts or consumes. -/
structure Thread where
  address : Nat
  groups : Groups
  deriving DecidableEq, Repr

/-- Open an occurrence at a position; it is empty until it is closed. -/
def openGroup (groups : Groups) (group pos : Nat) : Groups := groups.modify group (⟨pos, pos⟩ :: ·)

def closeLatest (pos : Nat) : List Span → List Span
  | [] => []
  | o :: rest => { o with stop := pos } :: rest

def closeGroup (groups : Groups) (group pos : Nat) : Groups := groups.modify group (closeLatest pos)

/-- The threads of one position, latest first, with the addresses reached there. -/
structure Step where
  seen : Array Bool
  threads : List Thread

/-- Follow the pending threads up to instructions that accept or consume. An address that was
reached before was reached with higher priority. -/
def spread (p : Program) (pos : Nat) : Nat → List Thread → Step → Step
  | 0, _, s => s
  | _ + 1, [], s => s
  | fuel + 1, t :: pending, s =>
    if s.seen.getD t.address true then p.spread pos fuel pending s
    else
      let s := { s with seen := s.seen.setIfInBounds t.address true }
      match p.code.getD t.address default with
      | .split first second =>
        p.spread pos fuel ({ t with address := first } :: { t with address := second } :: pending) s
      | .opening group next =>
        p.spread pos fuel (⟨next, openGroup t.groups group pos⟩ :: pending) s
      | .closing group next =>
        p.spread pos fuel (⟨next, closeGroup t.groups group pos⟩ :: pending) s
      | .symbols _ _ => p.spread pos fuel pending { s with threads := t :: s.threads }
      | .accept => p.spread pos fuel pending { s with threads := t :: s.threads }

/-- Follow one thread; every address is entered once and leaves at most two threads behind. -/
def enter (p : Program) (pos : Nat) (s : Step) (t : Thread) : Step :=
  p.spread pos (2 * p.size + 1) [t] s

def noStep (p : Program) : Step := ⟨Array.replicate p.size false, []⟩

/-- The thread behind a symbol that a thread consumes. -/
def consume? (p : Program) (x : Nat) (t : Thread) : Option Thread :=
  match p.code.getD t.address default with
  | .symbols ranges next => if Interval.covers ranges x then some { t with address := next } else none
  | _ => none

/-- The threads behind one symbol, in order of priority. -/
def advance (p : Program) (pos x : Nat) (threads : List Thread) : List Thread :=
  ((threads.filterMap (p.consume? x)).foldl (p.enter (pos + 1)) p.noStep).threads.reverse

def replayFrom (p : Program) : Nat → List Nat → List Thread → Option Groups
  | _, [], threads =>
    (threads.find? fun t => p.code.getD t.address default == .accept).map (·.groups)
  | pos, x :: rest, threads =>
    match p.advance pos x threads with
    | [] => none
    | threads => p.replayFrom (pos + 1) rest threads

/-- The threads in front of the first symbol. -/
def initial (p : Program) (pos : Nat) : List Thread :=
  (p.enter pos p.noStep ⟨p.start, List.replicate p.groups []⟩).threads.reverse

/-- The groups of the best way to match exactly the ordinals of a span. -/
def captures? (p : Program) (start : Nat) (ordinals : List Nat) : Option Captured :=
  (p.replayFrom start ordinals (p.initial start)).map fun groups =>
    ⟨⟨start, start + ordinals.length⟩, groups.map List.reverse⟩

end Program

end Polymatch
