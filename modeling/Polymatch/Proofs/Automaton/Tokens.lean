import Mathlib.Data.Nat.Find
import Polymatch.Automaton.Basic
import Polymatch.Group.Captured

/-! # Tokens

Cut greedily, an input is read from left to right: a token starts at the first offset
from which some pattern accepts a slice, it is the longest such slice, and the next
token lies behind it. Every input is cut in one way.
-/

namespace Polymatch

namespace Automaton

variable {a : Automaton} {input : List Nat} {p : Nat} {span span' : Span} {spans spans' : List Span}

/-- The longest of the slices that start first, among those at or behind an offset that a pattern
accepts. -/
structure Token (a : Automaton) (input : List Nat) (p : Nat) (span : Span) : Prop where
  le_start : p ≤ span.start
  start_le_stop : span.start ≤ span.stop
  stop_le : span.stop ≤ input.length
  accepted : a.isMatch (input.extract span.start span.stop) = true
  leftmost : ∀ s e, p ≤ s → s ≤ e → e ≤ input.length → a.isMatch (input.extract s e) = true → span.start ≤ s
  longest : ∀ e, span.start ≤ e → e ≤ input.length → a.isMatch (input.extract span.start e) = true →
    e ≤ span.stop

/-- The tokens from an offset on. A token is followed by those from its end on, but never by one
that starts where it starts itself. -/
inductive Tokens (a : Automaton) (input : List Nat) : Nat → List Span → Prop
  | done {p : Nat} : (∀ s e, p ≤ s → s ≤ e → e ≤ input.length → a.isMatch (input.extract s e) = false) →
      Tokens a input p []
  | token {p : Nat} {span : Span} {spans : List Span} : a.Token input p span →
      Tokens a input (max span.stop (span.start + 1)) spans → Tokens a input p (span :: spans)

theorem Token.unique (h : a.Token input p span) (h' : a.Token input p span') : span = span' := by
  have hstart : span.start = span'.start :=
    Nat.le_antisymm (h.leftmost _ _ h'.le_start h'.start_le_stop h'.stop_le h'.accepted)
      (h'.leftmost _ _ h.le_start h.start_le_stop h.stop_le h.accepted)
  obtain ⟨s, e⟩ := span
  obtain ⟨s', e'⟩ := span'
  obtain rfl : s = s' := hstart
  have hstop : e = e' :=
    Nat.le_antisymm (h'.longest _ h.start_le_stop h.stop_le h.accepted)
      (h.longest _ h'.start_le_stop h'.stop_le h'.accepted)
  rw [hstop]

theorem Token.not_done (h : a.Token input p span) : ¬ a.Tokens input p [] := by
  rintro ⟨hdone⟩
  have hnone := hdone _ _ h.le_start h.start_le_stop h.stop_le
  simp [h.accepted] at hnone

/-- Behind a token, the tokens go on in one way. -/
theorem Token.tokens_iff (h : a.Token input p span) : a.Tokens input p spans ↔
    ∃ rest, spans = span :: rest ∧ a.Tokens input (max span.stop (span.start + 1)) rest := by
  constructor
  · intro hspans
    cases hspans with
    | done hdone => exact (h.not_done (.done hdone)).elim
    | token h' hrest =>
      obtain rfl := h.unique h'
      exact ⟨_, rfl, hrest⟩
  · rintro ⟨rest, rfl, hrest⟩
    exact .token h hrest

theorem Tokens.unique (h : a.Tokens input p spans) (h' : a.Tokens input p spans') : spans = spans' := by
  induction h generalizing spans' with
  | done hdone =>
    cases h' with
    | done => rfl
    | token h' => exact (h'.not_done (.done hdone)).elim
  | token h _ ih =>
    obtain ⟨rest, rfl, hrest⟩ := h.tokens_iff.1 h'
    rw [ih hrest]

/-- An offset where no pattern accepts anything is passed over. -/
theorem tokens_succ_iff (hp : ∀ e, p ≤ e → e ≤ input.length → a.isMatch (input.extract p e) = false) :
    a.Tokens input p spans ↔ a.Tokens input (p + 1) spans := by
  have hne : ∀ {s e}, p ≤ s → s ≤ e → e ≤ input.length → a.isMatch (input.extract s e) = true →
      p + 1 ≤ s := by
    intro s e hps hse hle hmatch
    refine Nat.lt_of_le_of_ne hps ?_
    rintro rfl
    simp [hp e hse hle] at hmatch
  constructor
  · rintro (hdone | ⟨h, hrest⟩)
    · exact .done fun s e hps => hdone s e (Nat.le_of_succ_le hps)
    · exact .token ⟨hne h.le_start h.start_le_stop h.stop_le h.accepted, h.start_le_stop, h.stop_le,
        h.accepted, fun s e hps => h.leftmost s e (Nat.le_of_succ_le hps), h.longest⟩ hrest
  · rintro (hdone | ⟨h, hrest⟩)
    · refine .done fun s e hps hse hle => Bool.eq_false_iff.2 fun hmatch => ?_
      simp [hdone s e (hne hps hse hle hmatch) hse hle] at hmatch
    · exact .token ⟨Nat.le_of_succ_le h.le_start, h.start_le_stop, h.stop_le, h.accepted,
        fun s e hps hse hle hmatch => h.leftmost s e (hne hps hse hle hmatch) hse hle hmatch, h.longest⟩ hrest

theorem exists_token {s e : Nat} (hps : p ≤ s) (hse : s ≤ e) (hle : e ≤ input.length)
    (h : a.isMatch (input.extract s e) = true) : ∃ span, a.Token input p span := by
  classical
  have hstart : ∃ s, p ≤ s ∧ ∃ e, s ≤ e ∧ e ≤ input.length ∧ a.isMatch (input.extract s e) = true :=
    ⟨s, hps, e, hse, hle, h⟩
  obtain ⟨hfirst, e', hse', hle', hmatch⟩ := Nat.find_spec hstart
  have hstop := Nat.findGreatest_spec (P := fun e => Nat.find hstart ≤ e ∧
    a.isMatch (input.extract (Nat.find hstart) e) = true) hle' ⟨hse', hmatch⟩
  refine ⟨⟨Nat.find hstart, _⟩, hfirst, hstop.1, Nat.findGreatest_le _, hstop.2, ?_, ?_⟩
  · exact fun s e hps hse hle hmatch => Nat.find_min' hstart ⟨hps, e, hse, hle, hmatch⟩
  · exact fun e hse hle hmatch => Nat.le_findGreatest hle ⟨hse, hmatch⟩

/-- Every input is cut into tokens. -/
theorem exists_tokens (a : Automaton) (input : List Nat) (p : Nat) : ∃ spans, a.Tokens input p spans := by
  induction hn : input.length + 1 - p using Nat.strongRecOn generalizing p with
  | ind n ih =>
    by_cases h : ∃ span, a.Token input p span
    · obtain ⟨span, h⟩ := h
      have hle := h.le_start
      have hstop := Nat.le_trans h.start_le_stop h.stop_le
      obtain ⟨rest, hrest⟩ := ih _ (by omega) (max span.stop (span.start + 1)) rfl
      exact ⟨span :: rest, .token h hrest⟩
    · exact ⟨[], .done fun s e hps hse hle => Bool.eq_false_iff.2 fun hmatch =>
        h (exists_token hps hse hle hmatch)⟩

theorem Tokens.le_start (h : a.Tokens input p spans) (hspan : span ∈ spans) : p ≤ span.start := by
  induction h with
  | done => exact nomatch hspan
  | token h _ ih =>
    rcases List.mem_cons.1 hspan with rfl | hspan
    · exact h.le_start
    · have := ih hspan
      have := h.le_start
      omega

theorem Tokens.exists_token (h : a.Tokens input p spans) (hspan : span ∈ spans) : ∃ p, a.Token input p span := by
  induction h with
  | done => exact nomatch hspan
  | token h _ ih =>
    rcases List.mem_cons.1 hspan with rfl | hspan
    · exact ⟨_, h⟩
    · exact ih hspan

/-- Tokens start one after the other and do not overlap. -/
theorem Tokens.pairwise (h : a.Tokens input p spans) :
    spans.Pairwise fun span span' => span.start < span'.start ∧ span.stop ≤ span'.start := by
  induction h with
  | done => exact .nil
  | token _ hrest ih =>
    refine List.pairwise_cons.2 ⟨fun span' hspan' => ?_, ih⟩
    have := hrest.le_start hspan'
    omega

end Automaton

end Polymatch
