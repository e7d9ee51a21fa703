import Polymatch.Proofs.Matcher.Alternatives
import Polymatch.Proofs.Matcher.Steering

/-! # Plans of a scan

A scan is a chain of rounds, one for every offset that it tries. A round that no answer breaks
off leads on to where the requests among the answers say. A request to skip replaces those to
skip before it, but a request to stop is never taken back. So a scan goes on as the last request
of an offset says just if that request is to stop, or no request before it was.
-/

namespace Polymatch

namespace Matcher

variable {α τ : Type} {m : Matcher α} {input : List Nat} {start fuel : Nat} {log : List (Found α × Action)}
  {outcome : Outcome}

/-- One offset of a scan, with the reports from there and the answers to them. -/
structure Round (α : Type) where
  start : Nat
  log : List (Found α × Action)
  /-- Where the scan goes on, if it does. -/
  next? : Option Nat

namespace Round

variable {r : Round α}

/-- No answer breaks off the reports of the offset. -/
def Exhausts (r : Round α) : Prop := ∀ e ∈ r.log, e.2.breaks? e.1.span = none

/-- Where the last request asks to go on; at the next offset if there is none. -/
def asked (r : Round α) : Option Nat := (requests r.log).getLast?.getD (some (r.start + 1))

/-- The round reports the matches of its offset up to the first answer that breaks off, and the scan
goes on where this answer says. If there is no such answer, all matches are reported, and the scan goes
on as the last request says unless some request is to stop. -/
structure Conducted (m : Matcher α) (input : List Nat) (r : Round α) : Prop where
  inside : r.start ≤ input.length
  reported : r.log.map Prod.fst <+: m.reportsFrom input r.start
  unbroken : r.log.Pairwise fun e _ => e.2.breaks? e.1.span = none
  broken : ∀ e ∈ r.log, ∀ outcome, e.2.breaks? e.1.span = some outcome → r.next? = nextStart r.start outcome
  exhausted : r.Exhausts → r.log.map Prod.fst = m.reportsFrom input r.start ∧
    r.next? = if none ∈ requests r.log then none else r.asked

/-- The scan goes on as asked, unless a request to stop has been replaced. -/
theorem Conducted.next?_eq_asked_iff (h : r.Conducted m input) (hexhausts : r.Exhausts) :
    r.next? = r.asked ↔ (none ∈ requests r.log → (requests r.log).getLast? = some none) := by
  rw [(h.exhausted hexhausts).2]
  split
  · rename_i hstop
    rw [asked, imp_iff_right hstop]
    cases (requests r.log).getLast? <;> simp [eq_comm]
  · rename_i hnot
    exact iff_of_true rfl fun hstop => absurd hstop hnot

end Round

theorem Answered.conducted (hs : start ≤ input.length)
    (h : Answered (m.reportsFrom input start) ⟨none, false⟩ log outcome) :
    Round.Conducted m input ⟨start, log, nextStart start outcome⟩ where
  inside := hs
  reported := h.isPrefix
  unbroken := h.pairwise_breaks?
  broken e he outcome' hbreaks := by rw [h.outcome_eq e he outcome' hbreaks]
  exhausted hexhausts := by
    rcases h.exhausted_or with ⟨hall, plan, rfl⟩ | ⟨e, he, hbreaks⟩
    · exact ⟨hall, h.nextStart_exhausted start⟩
    · exact nomatch (hexhausts e he).symm.trans hbreaks

/-- Rounds that follow each other from an offset on, until one stops or leads behind `limit`. -/
inductive Chained (limit : Nat) : Nat → List (Round α) → Prop
  | past {start : Nat} : limit < start → Chained limit start []
  | stopped {r : Round α} : r.next? = none → Chained limit r.start [r]
  | goOn {r : Round α} {next : Nat} {rounds : List (Round α)} : r.next? = some next → r.start < next →
      Chained limit next rounds → Chained limit r.start (r :: rounds)

theorem Chained.eq_cons {limit : Nat} {rounds : List (Round α)} (h : Chained limit start rounds)
    (hle : start ≤ limit) : ∃ r rest, rounds = r :: rest ∧ r.start = start := by
  cases h with
  | past hlt => exact absurd hle (Nat.not_le.2 hlt)
  | stopped => exact ⟨_, _, rfl, rfl⟩
  | goOn => exact ⟨_, _, rfl, rfl⟩

theorem scanWithin_planned (m : Matcher α) (visit : τ → Found α → τ × Action) (hfuel : input.length < start + fuel)
    (t : τ) (log : List (Found α × Action)) : ∃ rounds : List (Round α),
      m.scanWithin input (logged visit) fuel start (t, log) =
          (m.scanWithin input visit fuel start t, log ++ rounds.flatMap Round.log) ∧
        Chained input.length start rounds ∧ ∀ r ∈ rounds, r.Conducted m input := by
  induction fuel generalizing start t log with
  | zero => exact ⟨[], by rw [List.flatMap_nil, List.append_nil]; rfl, .past hfuel, List.forall_mem_nil _⟩
  | succ fuel ih =>
    rw [scanWithin, scanWithin]
    split
    · exact ⟨[], by rw [List.flatMap_nil, List.append_nil], .past ‹_›, List.forall_mem_nil _⟩
    · rename_i hs
      obtain ⟨new, t', outcome, hlog, hreport, hanswered⟩ := reportStops_logged m input visit start t log
      have hconducted := hanswered.conducted (Nat.le_of_not_lt hs)
      rw [hlog, hreport]
      rcases hanswered.nextStart_cases hanswered.start_eq with ⟨hnext, -⟩ | ⟨next, hnext, hlt, -⟩
      · simp only [hnext] at hconducted ⊢
        refine ⟨[⟨start, new, none⟩], ?_, .stopped (r := ⟨start, new, none⟩) rfl,
          List.forall_mem_singleton.2 hconducted⟩
        rw [List.flatMap_singleton]
      · simp only [hnext] at hconducted ⊢
        obtain ⟨rounds, hscan, hchained, hrounds⟩ := @ih next (by omega) t' (log ++ new)
        refine ⟨⟨start, new, some next⟩ :: rounds, ?_, .goOn (r := ⟨start, new, some next⟩) rfl hlt hchained,
          List.forall_mem_cons.2 ⟨hconducted, hrounds⟩⟩
        rw [hscan, List.flatMap_cons, List.append_assoc]

/-- Whatever a receiver answers, a scan is a chain of rounds. Where an offset is exhausted, the scan goes
on as its last request says, or at the next offset without one, just if no other request replaces one
to stop. -/
theorem scan_planned (m : Matcher α) (input : List Nat) (visit : τ → Found α → τ × Action) (t : τ) :
    ∃ rounds : List (Round α),
      m.scan input (logged visit) (t, []) = (m.scan input visit t, rounds.flatMap Round.log) ∧
        Chained input.length 0 rounds ∧ ∀ r ∈ rounds, r.Conducted m input ∧ (r.Exhausts →
          (r.next? = r.asked ↔ (none ∈ requests r.log → (requests r.log).getLast? = some none))) := by
  have hfuel : input.length < 0 + (input.length + 1) := by omega
  obtain ⟨rounds, hscan, hchained, hrounds⟩ := m.scanWithin_planned visit hfuel t []
  exact ⟨rounds, hscan, hchained, fun r hr => ⟨hrounds r hr, (hrounds r hr).next?_eq_asked_iff⟩⟩

/-- Two letters that match one by one and together. -/
def manyLetters : Pattern := .loop (.symbols [⟨97, 98⟩]) 1 .plain

/-- Answer the first report by stopping behind its offset, the second by going on at the next one. -/
def retract (n : Nat) (_ : Found Captured) : Nat × Action :=
  (n + 1, if n = 0 then .terminateAfterStart else if n = 1 then .skipAfterStart 1 else .continueAll)

/-- The scan stops, although it was last asked to go on where there is another match. -/
theorem scan_planned_retracted : ∃ m, MatcherBuilder.new.buildAll .bytes [manyLetters] = .ok m ∧
    m.reportsFrom [97, 97] 1 ≠ [] ∧ ∃ rounds : List (Round Captured),
      m.scan [97, 97] (logged retract) (0, []) = (2, rounds.flatMap Round.log) ∧
        ∃ r ∈ rounds, r.start = 0 ∧ r.Exhausts ∧ r.asked = some 1 ∧ r.next? = none := by
  let first : Found Captured := ⟨0, ⟨0, 1⟩, ⟨⟨0, 1⟩, []⟩⟩
  let second : Found Captured := ⟨0, ⟨0, 2⟩, ⟨⟨0, 2⟩, []⟩⟩
  obtain ⟨m, hbuild, hreports, hlog, hlater⟩ : ∃ m, MatcherBuilder.new.buildAll .bytes [manyLetters] = .ok m ∧
      m.reportsFrom [97, 97] 0 = [first, second] ∧
      m.scan [97, 97] (logged retract) (0, []) = (2, [(first, .terminateAfterStart), (second, .skipAfterStart 1)]) ∧
      m.reportsFrom [97, 97] 1 ≠ [] :=
    ⟨_, MatcherBuilder.buildAll_of_nodup (by decide +kernel) (by decide), by decide +kernel, by decide +kernel,
      by decide +kernel⟩
  obtain ⟨rounds, hscan, hchained, hrounds⟩ := scan_planned m [97, 97] retract 0
  obtain ⟨htwo, hflat⟩ := Prod.mk.inj (hscan.symm.trans hlog)
  obtain ⟨r, rest, rfl, hstart⟩ := hchained.eq_cons (Nat.zero_le _)
  obtain ⟨hconducted, -⟩ := hrounds r List.mem_cons_self
  -- both reports come from the first round, since no answer breaks it off
  have hinit : r.log <+: [(first, .terminateAfterStart), (second, .skipAfterStart 1)] :=
    ⟨_, (List.flatMap_cons ..).symm.trans hflat⟩
  have hexhausts : r.Exhausts := fun e he => by
    rcases List.mem_pair.1 (hinit.subset he) with rfl | rfl <;> rfl
  obtain ⟨hall, hnext⟩ := hconducted.exhausted hexhausts
  rw [hstart, hreports] at hall
  have hr : r.log = [(first, .terminateAfterStart), (second, .skipAfterStart 1)] :=
    hinit.eq_of_length (by simpa using congrArg List.length hall)
  refine ⟨m, hbuild, hlater, r :: rest, hscan.trans (by rw [htwo]), r, List.mem_cons_self, hstart, hexhausts, ?_, ?_⟩
  · rw [Round.asked, hr]
    rfl
  · rw [hnext, hr]
    rfl

end Matcher

end Polymatch
