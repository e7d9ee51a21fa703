import Polymatch.Matcher.Shared
import Polymatch.Proofs.Group.Buffer
import Polymatch.Proofs.Matcher.Reports

/-! # Shared buffers do not matter

An operation of a matcher sets out from every offset with a buffer that has forgotten what was
recorded before, so it answers the same on every buffer, and as it does without one.
-/

namespace Polymatch.Matcher

open Automaton (Cursor)

variable {α τ : Type} {m : Matcher α} {input : List Nat} {c : Cursor} {b : Buffer} {r r' : Recording} {pos start : Nat}

/-- The groups of a match depend on the occurrences that have been recorded only. -/
theorem foundAt_congr (h : r.Agrees r') (stop : Nat) (accepted : IdSet) (exit : Marks) :
    m.foundAt input start ⟨stop, accepted, exit, r⟩ = m.foundAt input start ⟨stop, accepted, exit, r'⟩ := by
  have hfound : m.found? input start ⟨stop, accepted, exit, r⟩ = m.found? input start ⟨stop, accepted, exit, r'⟩ :=
    funext fun i => by simp only [found?, capturedAt, h.select_eq]
  rw [foundAt, foundAt, hfound]

theorem foundAt_eq_nil {st : Automaton.Stop} (h : st.accepted.isEmpty = true) : m.foundAt input start st = [] := by
  rw [foundAt, List.isEmpty_iff.1 h, List.filterMap_nil]

theorem stop_of_mem_foundAt {st : Automaton.Stop} {f : Found α} (h : f ∈ m.foundAt input start st) :
    f.span.stop = st.stop := by
  rw [(of_found? (mem_foundAt.1 h).2).2]

namespace Shared

/-- What is found where a run stands is what is found at the accepting places there. -/
theorem foundAt_place (h : b.recording.Agrees r) :
    m.foundAt input start (place m c pos b) =
      (Automaton.stopsFrom.here m.automaton c r pos).flatMap (m.foundAt input start) := by
  rw [place, foundAt_congr h, Automaton.stopsFrom.here]
  split
  · rename_i hempty
    exact foundAt_eq_nil hempty
  · exact (List.flatMap_singleton ..).symm

/-- The matches behind the rest of the input are those of the last place, if the run gets there. -/
theorem exactFrom_eq (h : b.recording.Agrees r) (rest : List Nat) :
    (exactFrom m input c pos rest b).1 =
      ((m.automaton.stopsFrom c r pos rest).flatMap (m.foundAt input 0)).filter (·.span.stop = pos + rest.length) := by
  induction rest generalizing c r b pos with
  | nil =>
    have hstop : ∀ f ∈ m.foundAt input 0 (place m c pos b), f.span.stop = pos := fun f => stop_of_mem_foundAt
    rw [exactFrom, Automaton.stopsFrom, ← foundAt_place h]
    exact (List.filter_eq_self.2 fun f hf => decide_eq_true (hstop f hf)).symm
  | cons x rest ih =>
    have hlength : pos + (x :: rest).length = pos + 1 + rest.length := by
      rw [List.length_cons]
      omega
    have hnone : (m.foundAt input 0 (place m c pos b)).filter (·.span.stop = pos + 1 + rest.length) = [] :=
      List.filter_eq_nil_iff.2 fun f hf => by
        have hstop : f.span.stop = pos := stop_of_mem_foundAt hf
        simp only [decide_eq_true_eq]
        omega
    rw [exactFrom, Automaton.stopsFrom, List.flatMap_append, ← foundAt_place h, hlength, List.filter_append, hnone,
      List.nil_append]
    cases m.automaton.step? c x with
    | none => rfl
    | some step => exact ih (Buffer.recording_update h step.2 pos)

theorem reportFrom_eq (visit : τ → Found α → τ × Action) (h : b.recording.Agrees r) (rest : List Nat) (t : τ) (plan : Plan) :
    (reportFrom m input visit start c pos rest b t plan).1 =
      report visit start ((m.automaton.stopsFrom c r pos rest).flatMap (m.foundAt input start)) t plan := by
  induction rest generalizing c r b pos t plan with
  | nil => rw [reportFrom, foundAt_place h, Automaton.stopsFrom]
  | cons x rest ih =>
    rw [reportFrom, foundAt_place h, Automaton.stopsFrom, List.flatMap_append, report_append]
    generalize report visit start _ t plan = reported
    obtain ⟨t', outcome⟩ := reported
    cases outcome with
    | terminated | restart => rfl
    | exhausted plan =>
      dsimp only
      cases m.automaton.step? c x with
      | none => rfl
      | some step => exact ih (Buffer.recording_update h step.2 pos) t' plan

theorem scanWithin_eq (visit : τ → Found α → τ × Action) (fuel : Nat) (start : Nat) (b : Buffer) (t : τ) :
    (scanWithin m input visit fuel start b t).1 = m.scanWithin input visit fuel start t := by
  induction fuel generalizing start b t with
  | zero => rfl
  | succ fuel ih =>
    rw [scanWithin, Matcher.scanWithin]
    split
    · rfl
    · rw [reportStops_eq_report, Automaton.stops, ← reportFrom_eq visit (Buffer.recording_reset b)]
      generalize reportFrom m input visit start _ start _ _ t _ = reported
      obtain ⟨⟨t', outcome⟩, b'⟩ := reported
      dsimp only
      cases nextStart start outcome with
      | none => rfl
      | some next => exact ih next b' t'

theorem exactAll_fst (m : Matcher α) (input : List Nat) (b : Buffer) : (exactAll m input b).1 = m.exactAll input := by
  rw [exactAll, exactFrom_eq (Buffer.recording_reset b), exactAll_eq, Nat.zero_add]
  rfl

theorem scan_fst (m : Matcher α) (input : List Nat) (visit : τ → Found α → τ × Action) (b : Buffer) (t : τ) :
    (scan m input visit b t).1 = m.scan input visit t := scanWithin_eq ..

theorem findLongestWith_fst (m : Matcher α) (input : List Nat) (visit : τ → List (Found α) → τ × Bool)
    (b : Buffer) (t : τ) : (findLongestWith m input visit b t).1 = m.findLongestWith input visit t := by
  rw [findLongestWith, Matcher.findLongestWith, ← scan_fst]

/-- A buffer answers any request as one that has only seen the updates since the last reset. So every operation of a
matcher answers on any buffer as it does without one. -/
theorem answers_on_any_buffer :
    (∀ (calls : List Buffer.Call) (call : Buffer.Call),
      (Buffer.run calls).answer? call = (Buffer.run (Buffer.pending calls)).answer? call) ∧
    ∀ {α τ : Type} (m : Matcher α) (input : List Nat) (b : Buffer),
      (exactAll m input b).1 = m.exactAll input ∧ (firstExact? m input b).1 = m.firstExact? input ∧
      (∀ (visit : τ → Found α → τ × Action) (t : τ), (scan m input visit b t).1 = m.scan input visit t) ∧
      (findFirst? m input b).1 = m.findFirst? input ∧
      (∀ (visit : τ → List (Found α) → τ × Bool) (t : τ),
        (findLongestWith m input visit b t).1 = m.findLongestWith input visit t) ∧
      (findLongest m input b).1 = m.findLongest input := by
  refine ⟨Buffer.answer?_run, fun m input b => ⟨exactAll_fst m input b, ?_, ?_, scan_fst m input _ b _, ?_,
    findLongestWith_fst m input _ b _⟩⟩
  · exact congrArg List.head? (exactAll_fst m input b)
  · exact fun visit t => scan_fst m input visit b t
  · exact fun visit t => findLongestWith_fst m input visit b t

end Shared

end Polymatch.Matcher
