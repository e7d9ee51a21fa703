import Mathlib.Logic.Function.Iterate
import Polymatch.Proofs.Matcher.Separation

/-! # Steered scans

A receiver steers a scan by the actions with which it answers the reports. Whatever it
answers, the scan ends, and what it reports comes from the scan that nothing interrupts.
A match is only left out behind a report that was answered by stopping, or by skipping
beyond the offset of the match.
-/

namespace Polymatch

namespace Action

open Matcher (Plan Outcome behind)

variable {action : Action} {span : Span} {outcome : Outcome} {r : Nat}

/-- Where a scan goes on that skips. -/
def resume? (span : Span) : Action → Option Nat
  | .skipMatchedNow | .skipMatchedAfterStart => some (behind span)
  | .skipNow n | .skipAfterStart n => some (span.start + max n 1)
  | .continueAll | .terminate | .terminateAfterStart => none

/-- How an action breaks off the reports of an offset. -/
def breaks? (span : Span) : Action → Option Outcome
  | .terminate => some .terminated
  | .skipMatchedNow => some (.restart (behind span))
  | .skipNow n => some (.restart (span.start + max n 1))
  | .continueAll | .terminateAfterStart | .skipMatchedAfterStart | .skipAfterStart _ => none

/-- What an action asks for once the offset is exhausted. -/
def amend (span : Span) (plan : Plan) : Action → Plan
  | .terminateAfterStart => { plan with stop := true }
  | .skipMatchedAfterStart => { plan with resume? := some (behind span) }
  | .skipAfterStart n => { plan with resume? := some (span.start + max n 1) }
  | .continueAll | .terminate | .skipMatchedNow | .skipNow _ => plan

/-- The offset that an action asks to go on at once its own is exhausted, none if it asks to stop. -/
def request? (span : Span) : Action → Option (Option Nat)
  | .terminateAfterStart => some none
  | .skipMatchedAfterStart => some (some (behind span))
  | .skipAfterStart n => some (some (span.start + max n 1))
  | .continueAll | .terminate | .skipMatchedNow | .skipNow _ => none

/-- A skip never stays in place. -/
theorem lt_of_resume? (h : action.resume? span = some r) : span.start < r := by
  cases action <;> simp only [resume?, behind, reduceCtorEq, Option.some.injEq] at h <;> omega

theorem of_breaks? (h : action.breaks? span = some outcome) :
    (action = .terminate ∧ outcome = .terminated) ∨ ∃ r, action.resume? span = some r ∧ outcome = .restart r := by
  cases action <;> simp only [breaks?, reduceCtorEq, Option.some.injEq] at h
  case terminate => exact .inl ⟨rfl, h.symm⟩
  all_goals exact .inr ⟨_, rfl, h.symm⟩

theorem eq_terminateAfterStart (h : action.request? span = some none) : action = .terminateAfterStart := by
  cases action <;> simp only [request?, reduceCtorEq, Option.some.injEq] at h
  rfl

theorem resume?_of_request? (h : action.request? span = some (some r)) : action.resume? span = some r := by
  cases action <;> simp only [request?, reduceCtorEq, Option.some.injEq] at h
  all_goals exact congrArg some h

end Action

/-- Ascending matches that all occur among others are a part of these, in their order. -/
theorem Found.sublist_of_ascending {α : Type} {l l' : List (Found α)} (h : l.Pairwise (·.rank < ·.rank))
    (h' : l'.Pairwise (·.rank < ·.rank)) (hm : l ⊆ l') : l.Sublist l' := by
  have : Std.Antisymm fun f g : Found α => f.rank < g.rank := ⟨fun _ _ h h' => (lt_asymm h h').elim⟩
  have hnodup : l.Nodup := h.imp fun hlt heq => (heq ▸ hlt).ne rfl
  exact List.sublist_of_subperm_of_pairwise (List.subperm_of_subset hnodup hm) h h'

namespace Matcher

variable {α τ : Type} {m : Matcher α} {input : List Nat} {start fuel : Nat} {visit : τ → Found α → τ × Action}
  {founds : List (Found α)} {plan plan' : Plan} {log : List (Found α × Action)} {outcome : Outcome} {g : Found α}
  {t : τ}

section Rounds

/-- The matches of one offset, as far as they are reported, with the actions that answer them. -/
inductive Answered : List (Found α) → Plan → List (Found α × Action) → Outcome → Prop
  | exhausted (plan : Plan) : Answered [] plan [] (.exhausted plan)
  | broken {f : Found α} {founds : List (Found α)} {plan : Plan} {action : Action} {outcome : Outcome} :
      action.breaks? f.span = some outcome → Answered (f :: founds) plan [(f, action)] outcome
  | goOn {f : Found α} {founds : List (Found α)} {plan : Plan} {action : Action} {log : List (Found α × Action)}
      {outcome : Outcome} : action.breaks? f.span = none → Answered founds (action.amend f.span plan) log outcome →
      Answered (f :: founds) plan ((f, action) :: log) outcome

theorem report_cons {f : Found α} (hf : f.span.start = start) (t : τ) (plan : Plan) :
    report visit start (f :: founds) t plan =
      match (visit t f).2.breaks? f.span with
      | some outcome => ((visit t f).1, outcome)
      | none => report visit start founds (visit t f).1 ((visit t f).2.amend f.span plan) := by
  rw [report]
  obtain ⟨t', action⟩ := visit t f
  subst hf
  cases action <;> rfl

/-- Note down the reports and the answers to them. -/
def logged (visit : τ → Found α → τ × Action) (s : τ × List (Found α × Action)) (f : Found α) :
    (τ × List (Found α × Action)) × Action :=
  (((visit s.1 f).1, s.2 ++ [(f, (visit s.1 f).2)]), (visit s.1 f).2)

theorem report_logged (visit : τ → Found α → τ × Action) (hfounds : ∀ f ∈ founds, f.span.start = start) (t : τ)
    (log : List (Found α × Action)) (plan : Plan) : ∃ new t' outcome,
      report (logged visit) start founds (t, log) plan = ((t', log ++ new), outcome) ∧
        report visit start founds t plan = (t', outcome) ∧ Answered founds plan new outcome := by
  induction founds generalizing t log plan with
  | nil => exact ⟨[], t, _, by rw [List.append_nil]; rfl, rfl, .exhausted plan⟩
  | cons f founds ih =>
    obtain ⟨hf, hfounds⟩ := List.forall_mem_cons.1 hfounds
    rw [report_cons hf, report_cons hf, logged]
    cases hbreaks : (visit t f).2.breaks? f.span with
    | some outcome => exact ⟨[(f, (visit t f).2)], _, outcome, rfl, rfl, .broken hbreaks⟩
    | none =>
      obtain ⟨new, t', outcome, hlog, hreport, hanswered⟩ :=
        ih hfounds (visit t f).1 (log ++ [(f, (visit t f).2)]) ((visit t f).2.amend f.span plan)
      rw [← List.append_cons] at hlog
      exact ⟨(f, (visit t f).2) :: new, t', outcome, hlog, hreport, .goOn hbreaks hanswered⟩

/-- The requests among the answers to the reports of an offset, in order. -/
def requests (log : List (Found α × Action)) : List (Option Nat) := log.filterMap fun e => e.2.request? e.1.span

theorem requests_cons (e : Found α × Action) (log : List (Found α × Action)) :
    requests (e :: log) = (e.2.request? e.1.span).toList ++ requests log := by
  rw [requests, List.filterMap_cons]
  cases e.2.request? e.1.span <;> rfl

namespace Answered

/-- The reports of one offset come in order, and none is left out in between. -/
theorem isPrefix (h : Answered founds plan log outcome) : log.map Prod.fst <+: founds := by
  induction h with
  | exhausted => exact List.prefix_rfl
  | broken => exact List.cons_prefix_cons.2 ⟨rfl, List.nil_prefix⟩
  | goOn _ _ ih => exact List.cons_prefix_cons.2 ⟨rfl, ih⟩

theorem mem_reportsFrom (h : Answered (m.reportsFrom input start) plan log outcome) :
    ∀ e ∈ log, e.1 ∈ m.reportsFrom input start := fun _ he => h.isPrefix.subset (List.mem_map_of_mem he)

theorem start_eq (h : Answered (m.reportsFrom input start) plan log outcome) : ∀ e ∈ log, e.1.span.start = start :=
  fun e he => start_of_mem_reportsFrom (h.mem_reportsFrom e he)

/-- An action that breaks off answers the last report. -/
theorem pairwise_breaks? (h : Answered founds plan log outcome) :
    log.Pairwise fun e _ => e.2.breaks? e.1.span = none := by
  induction h with
  | exhausted => exact .nil
  | broken => exact List.pairwise_singleton ..
  | goOn hnone _ ih => exact List.pairwise_cons.2 ⟨fun _ _ => hnone, ih⟩

theorem outcome_eq (h : Answered founds plan log outcome) :
    ∀ e ∈ log, ∀ outcome', e.2.breaks? e.1.span = some outcome' → outcome = outcome' := by
  induction h with
  | exhausted => exact fun _ he => nomatch he
  | broken hbreaks =>
    intro e he outcome' h'
    obtain rfl := List.mem_singleton.1 he
    exact Option.some.inj (hbreaks.symm.trans h')
  | goOn hnone _ ih =>
    refine List.forall_mem_cons.2 ⟨fun outcome' h' => ?_, ih⟩
    exact nomatch hnone.symm.trans h'

/-- The reports of an offset end with the last one, or with an action that breaks off. -/
theorem exhausted_or (h : Answered founds plan log outcome) :
    (log.map Prod.fst = founds ∧ ∃ plan', outcome = .exhausted plan') ∨
      ∃ e ∈ log, e.2.breaks? e.1.span = some outcome := by
  induction h with
  | exhausted plan => exact .inl ⟨rfl, plan, rfl⟩
  | broken hbreaks => exact .inr ⟨_, List.mem_singleton_self _, hbreaks⟩
  | goOn _ _ ih =>
    rcases ih with ⟨rfl, hplan⟩ | ⟨e, he, hbreaks⟩
    · exact .inl ⟨rfl, hplan⟩
    · exact .inr ⟨e, List.mem_cons_of_mem _ he, hbreaks⟩

/-- The plan of an exhausted offset: a request to stop stays, and any other is replaced by the next. -/
theorem plan_eq (h : Answered founds plan log (.exhausted plan')) :
    (plan'.stop = true ↔ plan.stop = true ∨ none ∈ requests log) ∧
      (none ∉ requests log → plan'.resume? = (requests log).getLast?.getD plan.resume?) := by
  generalize hplan : Outcome.exhausted plan' = outcome at h
  induction h with
  | exhausted plan =>
    obtain rfl := Outcome.exhausted.inj hplan
    simp [requests]
  | broken hbreaks =>
    subst hplan
    rcases Action.of_breaks? hbreaks with ⟨-, h⟩ | ⟨r, -, h⟩ <;> exact nomatch h
  | @goOn f _ plan action log _ hnone _ ih =>
    obtain ⟨hstop, hresume⟩ := ih hplan
    rw [requests_cons]
    cases action with
    | terminate => exact nomatch hnone
    | skipMatchedNow => exact nomatch hnone
    | skipNow n => exact nomatch hnone
    | continueAll => exact ⟨hstop, hresume⟩
    | terminateAfterStart =>
      refine ⟨?_, fun hnot => absurd List.mem_cons_self hnot⟩
      rw [hstop]
      simp [Action.amend, Action.request?]
    | skipMatchedAfterStart | skipAfterStart n =>
      constructor
      · rw [hstop]
        simp [Action.amend, Action.request?]
      · intro hnot
        rw [hresume fun hmem => hnot (List.mem_cons_of_mem _ hmem)]
        exact (congrArg (Option.getD · _) List.getLast?_cons).symm

/-- Once an offset is exhausted, the plan says where to go on. -/
theorem nextStart_exhausted (h : Answered founds ⟨none, false⟩ log (.exhausted plan)) (start : Nat) :
    nextStart start (.exhausted plan) =
      if none ∈ requests log then none else (requests log).getLast?.getD (some (start + 1)) := by
  obtain ⟨hstop, hresume⟩ := h.plan_eq
  rw [nextStart]
  by_cases hmem : none ∈ requests log
  · rw [if_pos (hstop.2 (.inr hmem)), if_pos hmem]
  · rw [if_neg fun hs => hmem ((hstop.1 hs).resolve_left Bool.false_ne_true), if_neg hmem, hresume hmem]
    cases hlast : (requests log).getLast? with
    | none => rfl
    | some request => cases request with
      | none => exact absurd (List.mem_of_getLast? hlast) hmem
      | some r => rfl

/-- Where the scan goes on, it has left behind what it skips. -/
theorem nextStart_cases (h : Answered founds ⟨none, false⟩ log outcome) (hstart : ∀ e ∈ log, e.1.span.start = start) :
    (nextStart start outcome = none ∧ ∃ e ∈ log, e.2 = .terminate ∨ e.2 = .terminateAfterStart) ∨
      ∃ next, nextStart start outcome = some next ∧ start < next ∧
        (next = start + 1 ∨ ∃ e ∈ log, e.2.resume? e.1.span = some next) := by
  rcases h.exhausted_or with ⟨-, plan, rfl⟩ | ⟨e, he, hbreaks⟩
  · rw [h.nextStart_exhausted start]
    split
    · rename_i hmem
      obtain ⟨e, he, heq⟩ := List.mem_filterMap.1 hmem
      exact .inl ⟨rfl, e, he, .inr (Action.eq_terminateAfterStart heq)⟩
    · rename_i hmem
      cases hlast : (requests log).getLast? with
      | none => exact .inr ⟨start + 1, rfl, Nat.lt_succ_self start, .inl rfl⟩
      | some request => cases request with
        | none => exact absurd (List.mem_of_getLast? hlast) hmem
        | some r =>
          obtain ⟨e, he, heq⟩ := List.mem_filterMap.1 (List.mem_of_getLast? hlast)
          have heq := Action.resume?_of_request? heq
          exact .inr ⟨r, rfl, hstart e he ▸ Action.lt_of_resume? heq, .inr ⟨e, he, heq⟩⟩
  · rcases Action.of_breaks? hbreaks with ⟨heq, rfl⟩ | ⟨r, heq, rfl⟩
    · exact .inl ⟨rfl, e, he, .inl heq⟩
    · exact .inr ⟨r, rfl, hstart e he ▸ Action.lt_of_resume? heq, .inr ⟨e, he, heq⟩⟩

end Answered

/-- One round of a scan that notes everything down. -/
theorem reportStops_logged (m : Matcher α) (input : List Nat) (visit : τ → Found α → τ × Action) (start : Nat) (t : τ)
    (log : List (Found α × Action)) : ∃ new t' outcome,
      m.reportStops input (logged visit) start (m.automaton.stops input start) (t, log) ⟨none, false⟩ =
          ((t', log ++ new), outcome) ∧
        m.reportStops input visit start (m.automaton.stops input start) t ⟨none, false⟩ = (t', outcome) ∧
        Answered (m.reportsFrom input start) ⟨none, false⟩ new outcome := by
  rw [reportStops_eq_report, reportStops_eq_report]
  exact report_logged visit (fun f hf => start_of_mem_reportsFrom hf) t log ⟨none, false⟩

end Rounds

section Ends

/-- One round of the scan, and what is left to it. -/
def scanStep (m : Matcher α) (input : List Nat) (visit : τ → Found α → τ × Action) (scan : Nat → τ → τ)
    (start : Nat) (t : τ) : τ :=
  if input.length < start then t
  else
    let (t, outcome) := m.reportStops input visit start (m.automaton.stops input start) t ⟨none, false⟩
    match nextStart start outcome with
    | none => t
    | some start => scan start t

theorem scanWithin_succ (m : Matcher α) (input : List Nat) (visit : τ → Found α → τ × Action) (fuel : Nat) :
    m.scanWithin input visit (fuel + 1) = m.scanStep input visit (m.scanWithin input visit fuel) := rfl

/-- Every round starts behind the one before it, so a scan without a bound on its rounds ends as well. -/
theorem iterate_scanStep (hfuel : input.length < start + fuel) (rest : Nat → τ → τ) (t : τ) :
    (m.scanStep input visit)^[fuel + 1] rest start t = m.scanWithin input visit fuel start t := by
  induction fuel generalizing start t with
  | zero => exact if_pos hfuel
  | succ fuel ih =>
    rw [Function.iterate_succ_apply', scanWithin_succ, scanStep, scanStep]
    split
    · rfl
    · obtain ⟨new, t', outcome, -, hreport, hanswered⟩ := reportStops_logged m input visit start t []
      rw [hreport]
      rcases hanswered.nextStart_cases hanswered.start_eq with ⟨hnext, -⟩ | ⟨next, hnext, hlt, -⟩
      · simp only [hnext]
      · simp only [hnext]
        exact ih (by omega) t'

end Ends

section Runs

/-- The answer to a report is a reason to leave a match out. -/
def Excuses (e : Found α × Action) (g : Found α) : Prop :=
  e.2 = .terminate ∨ e.2 = .terminateAfterStart ∨ ∃ r, e.2.resume? e.1.span = some r ∧ g.span.start < r

/-- From one offset, a match is only left out behind an answer that breaks off. -/
theorem Answered.complete (h : Answered founds plan log outcome) (hasc : founds.Pairwise (·.rank < ·.rank))
    (hstart : ∀ f ∈ founds, f.span.start = start) (hg : g ∈ founds) :
    g ∈ log.map Prod.fst ∨ ∃ e ∈ log, e.1.rank < g.rank ∧ Excuses e g := by
  rcases h.exhausted_or with ⟨hall, -⟩ | ⟨e, he, hbreaks⟩
  · exact .inl (hall ▸ hg)
  · obtain ⟨rest, rfl⟩ := h.isPrefix
    refine (List.mem_append.1 hg).imp_right fun hrest => ⟨e, he, ?_, ?_⟩
    · exact (List.pairwise_append.1 hasc).2.2 _ (List.mem_map_of_mem he) g hrest
    · rcases Action.of_breaks? hbreaks with ⟨heq, -⟩ | ⟨r, hr, -⟩
      · exact .inl heq
      · have hlt := Action.lt_of_resume? hr
        rw [hstart _ (List.mem_append_left _ (List.mem_map_of_mem he))] at hlt
        exact .inr (.inr ⟨r, hr, hstart g hg ▸ hlt⟩)

/-- What has been reported and answered from an offset on. -/
structure Steered (m : Matcher α) (input : List Nat) (start : Nat) (log : List (Found α × Action)) : Prop where
  reported : ∀ e ∈ log, e.1 ∈ m.reports input ∧ start ≤ e.1.span.start
  ascending : log.Pairwise fun e e' => e.1.rank < e'.1.rank
  obeyed : log.Pairwise fun e e' => ∀ outcome, e.2.breaks? e.1.span = some outcome →
    ∃ r, outcome = .restart r ∧ r ≤ e'.1.span.start
  complete : ∀ g ∈ m.reports input, start ≤ g.span.start →
    g ∈ log.map Prod.fst ∨ ∃ e ∈ log, e.1.rank < g.rank ∧ Excuses e g

theorem steered_nil (h : input.length < start) : m.Steered input start [] where
  reported := List.forall_mem_nil _
  ascending := .nil
  obeyed := .nil
  complete g hg hle := by
    have := (mem_reports.1 hg).1
    omega

/-- A match at or behind an offset comes from this offset, is skipped, or is passed on to the rounds that follow. -/
theorem Answered.complete_append {later : List (Found α × Action)}
    (h : Answered (m.reportsFrom input start) ⟨none, false⟩ log outcome)
    (hlater : ∀ next, nextStart start outcome = some next → m.Steered input next later)
    (hg : g ∈ m.reports input) (hle : start ≤ g.span.start) :
    g ∈ (log ++ later).map Prod.fst ∨ ∃ e ∈ log ++ later, e.1.rank < g.rank ∧ Excuses e g := by
  have hstart := h.start_eq
  rw [List.map_append]
  rcases Nat.eq_or_lt_of_le hle with heq | hlt
  · have hmem := (mem_reports.1 hg).2
    rw [← heq] at hmem
    rcases h.complete (m.reportsFrom_ascending input start) (fun f => start_of_mem_reportsFrom) hmem with
      hin | ⟨e, he, hexcuse⟩
    · exact .inl (List.mem_append_left _ hin)
    · exact .inr ⟨e, List.mem_append_left _ he, hexcuse⟩
  · have hrank : ∀ e ∈ log, e.1.rank < g.rank := fun e he => by
      rw [Found.rank_lt, hstart e he]
      exact .inl hlt
    rcases h.nextStart_cases hstart with ⟨-, e, he, hend⟩ | ⟨next, hsome, -, hskip⟩
    · exact .inr ⟨e, List.mem_append_left _ he, hrank e he, hend.imp_right .inl⟩
    · rcases Nat.lt_or_ge g.span.start next with hbefore | hafter
      · obtain ⟨e, he, hr⟩ := hskip.resolve_left (by omega)
        exact .inr ⟨e, List.mem_append_left _ he, hrank e he, .inr (.inr ⟨next, hr, hbefore⟩)⟩
      · rcases (hlater next hsome).complete g hg hafter with hin | ⟨e, he, hexcuse⟩
        · exact .inl (List.mem_append_right _ hin)
        · exact .inr ⟨e, List.mem_append_right _ he, hexcuse⟩

/-- The reports of one offset, and of the rounds that follow if there are any. -/
theorem Answered.steered {later : List (Found α × Action)} (hs : start ≤ input.length)
    (h : Answered (m.reportsFrom input start) ⟨none, false⟩ log outcome)
    (hstop : nextStart start outcome = none → later = [])
    (hlater : ∀ next, nextStart start outcome = some next → m.Steered input next later) :
    m.Steered input start (log ++ later) := by
  have hstart := h.start_eq
  have hnext : later = [] ∨ ∃ next, nextStart start outcome = some next ∧ start < next ∧
      m.Steered input next later := by
    rcases h.nextStart_cases hstart with ⟨hnone, -⟩ | ⟨next, hsome, hlt, -⟩
    · exact .inl (hstop hnone)
    · exact .inr ⟨next, hsome, hlt, hlater next hsome⟩
  have hbehind : ∀ e ∈ later, ∃ next, nextStart start outcome = some next ∧ start < next ∧
      e.1 ∈ m.reports input ∧ next ≤ e.1.span.start := by
    intro e he
    rcases hnext with rfl | ⟨next, hsome, hlt, hsteered⟩
    · cases he
    · exact ⟨next, hsome, hlt, hsteered.reported e he⟩
  constructor
  case reported =>
    intro e he
    rcases List.mem_append.1 he with he | he
    · have heq := hstart e he
      refine ⟨mem_reports.2 ?_, heq.ge⟩
      rw [heq]
      exact ⟨hs, h.mem_reportsFrom e he⟩
    · obtain ⟨next, -, hlt, hmem, hle⟩ := hbehind e he
      exact ⟨hmem, by omega⟩
  case ascending =>
    have hfounds : (log.map Prod.fst).Pairwise (·.rank < ·.rank) :=
      (m.reportsFrom_ascending input start).sublist h.isPrefix.sublist
    rw [List.pairwise_map] at hfounds
    refine List.pairwise_append.2 ⟨hfounds, ?_, fun e he e' he' => ?_⟩
    · rcases hnext with rfl | ⟨next, -, -, hsteered⟩
      · exact .nil
      · exact hsteered.ascending
    · obtain ⟨next, -, hlt, -, hle⟩ := hbehind e' he'
      rw [Found.rank_lt, hstart e he]
      exact .inl (Nat.lt_of_lt_of_le hlt hle)
  case obeyed =>
    refine List.pairwise_append.2 ⟨h.pairwise_breaks?.imp fun hnone outcome hsome => ?_, ?_,
      fun e he e' he' outcome' hbreaks => ?_⟩
    · cases hnone.symm.trans hsome
    · rcases hnext with rfl | ⟨next, -, -, hsteered⟩
      · exact .nil
      · exact hsteered.obeyed
    · obtain ⟨next, hsome, -, -, hle⟩ := hbehind e' he'
      obtain rfl := h.outcome_eq e he outcome' hbreaks
      rcases Action.of_breaks? hbreaks with ⟨-, rfl⟩ | ⟨r, -, rfl⟩
      · cases hsome
      · exact ⟨r, rfl, Option.some.inj hsome ▸ hle⟩
  case complete => exact fun g hg hle => h.complete_append hlater hg hle

/-- Noting the reports down changes nothing in a scan, and what is noted follows the answers. -/
theorem scanWithin_logged (m : Matcher α) (visit : τ → Found α → τ × Action) (hfuel : input.length < start + fuel)
    (t : τ) (log : List (Found α × Action)) : ∃ new,
      m.scanWithin input (logged visit) fuel start (t, log) =
          (m.scanWithin input visit fuel start t, log ++ new) ∧ m.Steered input start new := by
  induction fuel generalizing start t log with
  | zero => exact ⟨[], by rw [List.append_nil]; rfl, steered_nil hfuel⟩
  | succ fuel ih =>
    rw [scanWithin, scanWithin]
    split
    · rename_i hlt
      exact ⟨[], by rw [List.append_nil], steered_nil hlt⟩
    · rename_i hs
      obtain ⟨new, t', outcome, hlog, hreport, hanswered⟩ := reportStops_logged m input visit start t log
      rw [hlog, hreport]
      rcases hanswered.nextStart_cases hanswered.start_eq with ⟨hnext, -⟩ | ⟨next, hnext, hlt, -⟩
      · simp only [hnext]
        refine ⟨new, rfl, ?_⟩
        have hsteered := hanswered.steered (Nat.le_of_not_lt hs) (fun _ => rfl) fun next hsome => by
          cases hnext.symm.trans hsome
        rwa [List.append_nil] at hsteered
      · simp only [hnext]
        obtain ⟨later, hscan, hlater⟩ := @ih next (by omega) t' (log ++ new)
        refine ⟨new ++ later, by rw [hscan, List.append_assoc], ?_⟩
        refine hanswered.steered (Nat.le_of_not_lt hs) (fun hnone => by cases hnext.symm.trans hnone) fun _ hsome => ?_
        exact Option.some.inj (hnext.symm.trans hsome) ▸ hlater

/-- Whatever a receiver answers, the scan ends. It reports matches of the uninterrupted scan, in their order, and
goes on where the answers say. A match is left out only behind an answer that stops the scan or skips the match. -/
theorem scan_steered (m : Matcher α) (input : List Nat) (visit : τ → Found α → τ × Action) (t : τ) :
    (∀ rest, (m.scanStep input visit)^[input.length + 2] rest 0 t = m.scan input visit t) ∧
      ∃ log, m.scan input (logged visit) (t, []) = (m.scan input visit t, log) ∧
        (log.map Prod.fst).Sublist (m.collect input) ∧
        log.Pairwise (fun e e' => e.1.rank < e'.1.rank ∧ e.2 ≠ .terminate ∧
          (e.2 = .skipMatchedNow → behind e.1.span ≤ e'.1.span.start) ∧
          ∀ n, e.2 = .skipNow n → e.1.span.start + max n 1 ≤ e'.1.span.start) ∧
        ∀ g ∈ m.collect input, g ∉ log.map Prod.fst → ∃ e ∈ log, e.1.rank < g.rank ∧ Excuses e g := by
  have hfuel : input.length < 0 + (input.length + 1) := by omega
  refine ⟨fun rest => iterate_scanStep hfuel rest t, ?_⟩
  obtain ⟨log, hscan, hsteered⟩ := m.scanWithin_logged visit hfuel t []
  rw [List.nil_append] at hscan
  rw [collect_eq_reports]
  refine ⟨log, hscan, ?_, ?_, fun g hg hnot => (hsteered.complete g hg (Nat.zero_le _)).resolve_left hnot⟩
  · exact Found.sublist_of_ascending (List.pairwise_map.2 hsteered.ascending) (m.reports_ascending input) fun f hf => by
      obtain ⟨e, he, rfl⟩ := List.mem_map.1 hf
      exact (hsteered.reported e he).1
  · refine hsteered.ascending.imp₂ (fun e e' hlt hobeyed => ⟨hlt, ?_, ?_, ?_⟩) hsteered.obeyed
    · rintro hend
      obtain ⟨r, hr, -⟩ := hobeyed .terminated (by rw [hend]; rfl)
      exact nomatch hr
    · rintro hskip
      obtain ⟨r, hr, hle⟩ := hobeyed (.restart (behind e.1.span)) (by rw [hskip]; rfl)
      exact Outcome.restart.inj hr ▸ hle
    · rintro n hskip
      obtain ⟨r, hr, hle⟩ := hobeyed (.restart (e.1.span.start + max n 1)) (by rw [hskip]; rfl)
      exact Outcome.restart.inj hr ▸ hle

end Runs

end Matcher

end Polymatch
