import Polymatch.Group.Buffer
import Polymatch.Matcher.Scan

/-! # Matching with a shared buffer

The operations of a matcher on a buffer that one of them passes on to the next. Each
forgets what the buffer has recorded whenever it sets out from an offset, records the
marks of the edges that it takes, and selects the groups of a match while it is there.
-/

namespace Polymatch.Matcher.Shared

open Automaton (Cursor)

variable {α σ τ : Type}

/-- The place where a run stands, with what the buffer has recorded on the way. -/
def place (m : Matcher α) (c : Cursor) (pos : Nat) (b : Buffer) : Automaton.Stop :=
  ⟨pos, m.automaton.acceptedAt c, (m.automaton.node c.state).exit, b.recording⟩

/-- The matches behind the rest of the input. -/
def exactFrom (m : Matcher α) (input : List Nat) :
    Cursor → Nat → List Nat → Buffer → List (Found α) × Buffer
  | c, pos, [], b => (m.foundAt input 0 (place m c pos b), b)
  | c, pos, x :: rest, b =>
    match m.automaton.step? c x with
    | none => ([], b)
    | some (c, marks) => exactFrom m input c (pos + 1) rest (b.update marks pos)

/-- Every pattern that matches the whole input, by ascending id. -/
def exactAll (m : Matcher α) (input : List Nat) (b : Buffer) : List (Found α) × Buffer :=
  exactFrom m input m.automaton.initial 0 input b.reset

/-- The pattern of lowest id that matches the whole input. -/
def firstExact? (m : Matcher α) (input : List Nat) (b : Buffer) : Option (Found α) × Buffer :=
  let (founds, b) := exactAll m input b
  (founds.head?, b)

/-- Report the matches from one start offset on the way through the rest of the input. -/
def reportFrom (m : Matcher α) (input : List Nat) (visit : σ → Found α → σ × Action) (start : Nat) :
    Cursor → Nat → List Nat → Buffer → σ → Plan → (σ × Outcome) × Buffer
  | c, pos, [], b, s, plan => (report visit start (m.foundAt input start (place m c pos b)) s plan, b)
  | c, pos, x :: rest, b, s, plan =>
    match report visit start (m.foundAt input start (place m c pos b)) s plan with
    | (s, .exhausted plan) =>
      match m.automaton.step? c x with
      | none => ((s, .exhausted plan), b)
      | some (c, marks) => reportFrom m input visit start c (pos + 1) rest (b.update marks pos) s plan
    | broken => (broken, b)

def scanWithin (m : Matcher α) (input : List Nat) (visit : σ → Found α → σ × Action) :
    Nat → Nat → Buffer → σ → σ × Buffer
  | 0, _, b, s => (s, b)
  | fuel + 1, start, b, s =>
    if input.length < start then (s, b)
    else
      let ((s, outcome), b) :=
        reportFrom m input visit start m.automaton.initial start (input.drop start) b.reset s ⟨none, false⟩
      match nextStart start outcome with
      | none => (s, b)
      | some start => scanWithin m input visit fuel start b s

/-- Report the matches anywhere in the input to `visit`, which carries a state along. -/
def scan (m : Matcher α) (input : List Nat) (visit : σ → Found α → σ × Action) (b : Buffer) (s : σ) :
    σ × Buffer :=
  scanWithin m input visit (input.length + 1) 0 b s

/-- The leftmost match; among those, the shortest, then the one of lowest id. -/
def findFirst? (m : Matcher α) (input : List Nat) (b : Buffer) : Option (Found α) × Buffer :=
  scan m input (fun _ found => (some found, .terminate)) b none

/-- Report leftmost-longest matches, those with one span as a group, while `visit` asks for more. -/
def findLongestWith (m : Matcher α) (input : List Nat) (visit : τ → List (Found α) → τ × Bool)
    (b : Buffer) (t : τ) : τ × Buffer :=
  let (h, b) := scan m input (hold visit) b ⟨t, [], false⟩
  (release visit h, b)

/-- All leftmost-longest matches, in input order. -/
def findLongest (m : Matcher α) (input : List Nat) (b : Buffer) : List (Found α) × Buffer :=
  findLongestWith m input (fun found group => (found ++ group, true)) b []

end Polymatch.Matcher.Shared
