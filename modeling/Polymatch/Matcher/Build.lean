import Polymatch.Arena.Compile
import Polymatch.Automaton.Merge
import Polymatch.Matcher.Basic

/-! # Building matchers

Patterns are compiled one by one and merged into the automaton of those before
them, each with the next id and with slots of its own.
-/

namespace Polymatch

/-- A compiled pattern with what a matcher needs of it. -/
structure Entry (α : Type) where
  automaton : Automaton
  layout : Layout
  /-- Present where the marks on the edges are ambiguous. -/
  program? : Option Program
  construct : Constructor α

structure MatcherBuilder (α : Type) where
  entries : List (Entry α)
  maxDepth : Nat
  allowOverlap : Bool

namespace MatcherBuilder

variable {α : Type}

def new : MatcherBuilder α := ⟨[], MergeOptions.defaultMaxDepth, false⟩

def entry (σ : Alphabet) (p : Pattern) (construct : Constructor α) :
    Except BuildError (Entry α) := do
  let layout ← p.checkedLayout σ
  let automaton := p.automaton σ layout
  let program? :=
    if automaton.ambiguous && !layout.isEmpty then some (Program.ofPattern p layout) else none
  return ⟨automaton, layout, program?, construct⟩

/-- Add a pattern; it gets the next id. -/
def pattern (b : MatcherBuilder α) (σ : Alphabet) (p : Pattern) (construct : Constructor α) :
    Except BuildError (MatcherBuilder α) := do
  let e ← entry σ p construct
  return { b with entries := b.entries ++ [e] }

/-- Merge one more pattern into a matcher. -/
def extend (b : MatcherBuilder α) (m : Matcher α) (e : Entry α) : Except BuildError (Matcher α) := do
  let slots := m.automaton.captures
  let options := ⟨some m.automaton.patterns, some slots, some b.maxDepth, b.allowOverlap⟩
  let merged ← m.automaton.mergePattern e.automaton options
  return ⟨merged, m.layouts ++ [e.layout.withBase slots], m.constructors ++ [e.construct],
    m.programs ++ [e.program?]⟩

def build (b : MatcherBuilder α) : Except BuildError (Matcher α) :=
  match b.entries with
  | [] => .error .noPatterns
  | first :: rest => do
    let m ← rest.foldlM b.extend
      ⟨first.automaton, [first.layout], [first.construct], [first.program?]⟩
    let checked ← Matcher.new m.automaton m.layouts m.constructors
    return { checked with programs := m.programs }

end MatcherBuilder

end Polymatch
