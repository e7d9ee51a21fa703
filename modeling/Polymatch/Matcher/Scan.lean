import Polymatch.Matcher.Basic

/-! # Scanning

A scan tries the offsets of the input from left to right and reports the matches
from each, the shortest first. The receiver of the reports steers the scan by
actions. Leftmost-longest scanning is such a receiver: it holds matches back until
a match at another offset shows that there is no longer one.
-/

namespace Polymatch

/-- How a scan goes on after a report. Skips count from the current start offset and advance by at
least one symbol; the `After` actions take effect once the start offset is exhausted. -/
inductive Action
  | continueAll
  | terminate
  | terminateAfterStart
  /-- Go on right behind the reported match. -/
  | skipMatchedNow
  | skipMatchedAfterStart
  | skipNow (n : Nat)
  | skipAfterStart (n : Nat)
  deriving DecidableEq, Repr, Inhabited

namespace Matcher

variable {α σ τ : Type}

/-- Where to go on behind a match; never in place. -/
def behind (span : Span) : Nat := max span.stop (span.start + 1)

/-- What has been asked for so far at one start offset. -/
structure Plan where
  resume? : Option Nat
  stop : Bool

/-- How the reports of one start offset end. -/
inductive Outcome
  | terminated
  | restart (offset : Nat)
  | exhausted (plan : Plan)

/-- Report matches from one start offset until an action breaks off. -/
def report (visit : σ → Found α → σ × Action) (start : Nat) :
    List (Found α) → σ → Plan → σ × Outcome
  | [], s, plan => (s, .exhausted plan)
  | found :: rest, s, plan =>
    let (s, action) := visit s found
    match action with
    | .continueAll => report visit start rest s plan
    | .terminate => (s, .terminated)
    | .terminateAfterStart => report visit start rest s { plan with stop := true }
    | .skipMatchedNow => (s, .restart (behind found.span))
    | .skipMatchedAfterStart => report visit start rest s { plan with resume? := some (behind found.span) }
    | .skipNow n => (s, .restart (start + max n 1))
    | .skipAfterStart n => report visit start rest s { plan with resume? := some (start + max n 1) }

/-- Report the matches at accepting places one after the other. -/
def reportStops (m : Matcher α) (input : List Nat) (visit : σ → Found α → σ × Action) (start : Nat) :
    List Automaton.Stop → σ → Plan → σ × Outcome
  | [], s, plan => (s, .exhausted plan)
  | stop :: rest, s, plan =>
    match report visit start (m.foundAt input start stop) s plan with
    | (s, .exhausted plan) => m.reportStops input visit start rest s plan
    | broken => broken

/-- The offset to go on at, if the scan goes on. -/
def nextStart (start : Nat) : Outcome → Option Nat
  | .terminated => none
  | .restart offset => some offset
  | .exhausted plan => if plan.stop then none else some (plan.resume?.getD (start + 1))

def scanWithin (m : Matcher α) (input : List Nat) (visit : σ → Found α → σ × Action) :
    Nat → Nat → σ → σ
  | 0, _, s => s
  | fuel + 1, start, s =>
    if input.length < start then s
    else
      let (s, outcome) := m.reportStops input visit start (m.automaton.stops input start) s ⟨none, false⟩
      match nextStart start outcome with
      | none => s
      | some start => m.scanWithin input visit fuel start s

/-- Report the matches anywhere in the input to `visit`, which carries a state along. Every round
starts behind the one before it. -/
def scan (m : Matcher α) (input : List Nat) (visit : σ → Found α → σ × Action) (s : σ) : σ :=
  m.scanWithin input visit (input.length + 1) 0 s

/-- The leftmost match; among those, the shortest, then the one of lowest id. -/
def findFirst? (m : Matcher α) (input : List Nat) : Option (Found α) :=
  m.scan input (fun _ found => (some found, .terminate)) none

/-- Leftmost-longest scanning under way: the group of matches that a longer match at the same offset
would replace is held back. -/
structure Holding (α τ : Type) where
  visited : τ
  group : List (Found α)
  stopped : Bool

/-- Hold a match back. A match at a new offset shows that the group before is final, and a longer
match at the same offset that it is not. -/
def hold (visit : τ → List (Found α) → τ × Bool) (h : Holding α τ) (found : Found α) :
    Holding α τ × Action :=
  match h.group with
  | [] => (⟨h.visited, [found], false⟩, .skipMatchedAfterStart)
  | first :: others =>
    if first.span.start ≠ found.span.start then
      let (t, goOn) := visit h.visited (first :: others)
      if goOn then (⟨t, [found], false⟩, .skipMatchedAfterStart) else (⟨t, [], true⟩, .terminate)
    else if first.span.stop < found.span.stop then
      (⟨h.visited, [found], false⟩, .skipMatchedAfterStart)
    else (⟨h.visited, first :: others ++ [found], false⟩, .skipMatchedAfterStart)

/-- Pass on the group that is held back at the end, unless the scan was stopped. -/
def release (visit : τ → List (Found α) → τ × Bool) (h : Holding α τ) : τ :=
  if h.stopped || h.group.isEmpty then h.visited else (visit h.visited h.group).1

/-- Report leftmost-longest matches, those with one span as a group, while `visit` asks for more. -/
def findLongestWith (m : Matcher α) (input : List Nat) (visit : τ → List (Found α) → τ × Bool)
    (t : τ) : τ :=
  release visit (m.scan input (hold visit) ⟨t, [], false⟩)

/-- All leftmost-longest matches, in input order. -/
def findLongest (m : Matcher α) (input : List Nat) : List (Found α) :=
  m.findLongestWith input (fun found group => (found ++ group, true)) []

end Matcher

end Polymatch
