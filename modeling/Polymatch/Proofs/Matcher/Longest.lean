import Polymatch.Proofs.Automaton.Tokens
import Polymatch.Proofs.Matcher.Slices

/-! # Leftmost-longest scanning

A leftmost-longest scan does not look ahead. It holds the matches from one offset back
until a longer match replaces them or a match from another offset arrives. What it
passes on are the matches of the tokens of the input, one group for every token.
-/

namespace Polymatch

namespace Matcher

variable {α τ : Type} {m : Matcher α} {input : List Nat} {start stop last fuel : Nat} {span : Span}
  {spans : List Span} {f : Found α} {group founds : List (Found α)} {visit : τ → List (Found α) → τ × Bool}
  {t : τ}

/-- The matches on one span that a scan reports if nothing interrupts it. -/
def matchesOn (m : Matcher α) (input : List Nat) (span : Span) : List (Found α) :=
  (m.collect input).filter (·.span = span)

/-- Pass groups on while the receiver asks for more. -/
def deliver (visit : τ → List (Found α) → τ × Bool) : List (List (Found α)) → τ → τ
  | [], t => t
  | group :: rest, t =>
    match visit t group with
    | (t, true) => deliver visit rest t
    | (t, false) => t

theorem mem_matchesOn : f ∈ m.matchesOn input span ↔ f ∈ m.reports input ∧ f.span = span := by
  rw [matchesOn, collect_eq_reports, List.mem_filter, decide_eq_true_eq]

/-- The matches on a span are those of the patterns that accept its slice, in order. -/
theorem map_pattern_matchesOn (hm : m.Covers) (hle : span.start ≤ span.stop) (hstop : span.stop ≤ input.length) :
    (m.matchesOn input span).map (·.pattern) =
      (m.automaton.accepts (input.extract span.start span.stop)).toList := by
  have hasc : (m.matchesOn input span).Pairwise (·.pattern < ·.pattern) := by
    rw [matchesOn, collect_eq_reports]
    refine ((m.reports_ascending input).filter _).imp_of_mem fun {f g} hf hg hlt => ?_
    have hf := of_decide_eq_true (List.mem_filter.1 hf).2
    have hg := of_decide_eq_true (List.mem_filter.1 hg).2
    rw [Found.rank_lt, hf, hg] at hlt
    omega
  refine List.Pairwise.eq_of_mem_iff (List.pairwise_map.2 hasc)
    (m.automaton.accepts (input.extract span.start span.stop)).ascending fun i => ?_
  have hiff : (∃ f ∈ m.reports input, f.span = span ∧ f.pattern = i) ↔ _ := exists_mem_reports_iff hm
  rw [and_iff_right hle, and_iff_right hstop] at hiff
  rw [← SortedSet.mem_def, ← hiff, List.mem_map]
  simp only [mem_matchesOn, and_assoc]

/-- Some pattern accepts a slice exactly if there are matches on it. -/
theorem isMatch_extract_iff (hm : m.Covers) (hs : start ≤ input.length) :
    start ≤ stop ∧ stop ≤ input.length ∧ m.automaton.isMatch (input.extract start stop) = true ↔
      ∃ f ∈ m.reportsFrom input start, f.span.stop = stop := by
  rw [Automaton.isMatch, Bool.not_eq_true', SortedSet.isEmpty_eq_false, ← exists_and_left, ← exists_and_left]
  simp only [← exists_mem_reports_iff hm]
  constructor
  · rintro ⟨i, f, hf, hspan, -⟩
    have hfrom := (mem_reports.1 hf).2
    rw [hspan] at hfrom
    exact ⟨f, hfrom, congrArg Span.stop hspan⟩
  · rintro ⟨f, hf, rfl⟩
    have hstart := start_of_mem_reportsFrom hf
    refine ⟨f.pattern, f, mem_reports.2 ?_, ?_, rfl⟩
    · rw [hstart]
      exact ⟨hs, hf⟩
    · rw [← hstart]

/-- Where something is reported, the first token starts, and the longest reports are on it. -/
theorem exists_token_of_reportsFrom (hm : m.Covers) (hs : start ≤ input.length)
    (hne : m.reportsFrom input start ≠ []) (htokens : m.automaton.Tokens input start spans) :
    ∃ last rest, spans = ⟨start, last⟩ :: rest ∧ m.automaton.Tokens input (behind ⟨start, last⟩) rest ∧
      (∀ f ∈ m.reportsFrom input start, f.span.stop ≤ last) ∧
      ∃ f ∈ m.reportsFrom input start, f.span.stop = last := by
  obtain ⟨f, hf⟩ := List.exists_mem_of_ne_nil _ hne
  obtain ⟨hle, hstop, hmatch⟩ := (isMatch_extract_iff hm hs).2 ⟨f, hf, rfl⟩
  rcases htokens with hdone | @⟨_, ⟨first, last⟩, rest, h, hrest⟩
  · simp [hdone _ _ (Nat.le_refl _) hle hstop] at hmatch
  · obtain rfl : first = start := Nat.le_antisymm (h.leftmost _ _ (Nat.le_refl _) hle hstop hmatch) h.le_start
    refine ⟨last, rest, rfl, hrest, fun g hg => ?_,
      (isMatch_extract_iff hm hs).1 ⟨h.start_le_stop, h.stop_le, h.accepted⟩⟩
    obtain ⟨hle, hstop, hmatch⟩ := (isMatch_extract_iff hm hs).2 ⟨g, hg, rfl⟩
    exact h.longest _ hle hstop hmatch

/-- The longest reports from an offset are the matches on one span. -/
theorem filter_reportsFrom (hs : start ≤ input.length) :
    (m.reportsFrom input start).filter (·.span.stop = stop) = m.matchesOn input ⟨start, stop⟩ := by
  refine Found.eq_of_ascending ((m.reportsFrom_ascending input start).filter _) ?_ fun f => ?_
  · rw [matchesOn, collect_eq_reports]
    exact (m.reports_ascending input).filter _
  · rw [List.mem_filter, decide_eq_true_eq, mem_matchesOn, mem_reports]
    constructor
    · rintro ⟨hf, rfl⟩
      have hstart := start_of_mem_reportsFrom hf
      rw [← hstart] at hs hf ⊢
      exact ⟨⟨hs, hf⟩, rfl⟩
    · rintro ⟨⟨-, hf⟩, hspan⟩
      rw [hspan] at hf ⊢
      exact ⟨hf, rfl⟩

theorem matchesOn_ne_nil (hs : start ≤ input.length)
    (h : ∃ f ∈ m.reportsFrom input start, f.span.stop = stop) : m.matchesOn input ⟨start, stop⟩ ≠ [] := by
  obtain ⟨f, hf, hstop⟩ := h
  rw [← filter_reportsFrom hs]
  exact List.ne_nil_of_mem (List.mem_filter.2 ⟨hf, decide_eq_true hstop⟩)

/-- The matches held back so far all end at `stop`. The reports still to come from the same offset
end there or behind, so in the end those are held back that end at the last place. -/
theorem report_hold (hne : group ≠ []) (hgroup : ∀ f ∈ group, f.span = ⟨start, stop⟩)
    (hfounds : ∀ f ∈ founds, f.span.start = start ∧ stop ≤ f.span.stop)
    (hasc : founds.Pairwise (·.span.stop ≤ ·.span.stop)) (hle : ∀ f ∈ group ++ founds, f.span.stop ≤ last)
    (hlast : ∃ f ∈ group ++ founds, f.span.stop = last) :
    report (hold visit) start founds ⟨t, group, false⟩ ⟨some (behind ⟨start, stop⟩), false⟩ =
      (⟨t, (group ++ founds).filter (·.span.stop = last), false⟩,
        .exhausted ⟨some (behind ⟨start, last⟩), false⟩) := by
  induction founds generalizing group stop with
  | nil =>
    rw [List.append_nil] at hlast ⊢
    obtain ⟨f, hf, rfl⟩ := hlast
    have hall : ∀ g ∈ group, g.span.stop = f.span.stop := fun g hg => by rw [hgroup f hf, hgroup g hg]
    rw [report, List.filter_eq_self.2 fun g hg => decide_eq_true (hall g hg), hgroup f hf]
  | cons f founds ih =>
    obtain ⟨⟨hstart, hstop⟩, hfounds⟩ := List.forall_mem_cons.1 hfounds
    obtain ⟨hf, hasc⟩ := List.pairwise_cons.1 hasc
    have hspan : f.span = ⟨start, f.span.stop⟩ := by rw [← hstart]
    have hnext : ∀ g ∈ founds, g.span.start = start ∧ f.span.stop ≤ g.span.stop :=
      fun g hg => ⟨(hfounds g hg).1, hf g hg⟩
    have hflast := hle f (List.mem_append_right _ List.mem_cons_self)
    obtain ⟨first, others, rfl⟩ := List.exists_cons_of_ne_nil hne
    have hfirst := hgroup first List.mem_cons_self
    rcases Nat.lt_or_eq_of_le hstop with hlt | rfl
    · -- A longer match replaces those held back.
      have hhold : hold visit ⟨t, first :: others, false⟩ f = (⟨t, [f], false⟩, .skipMatchedAfterStart) := by
        simp [hold, hfirst, hstart, hlt]
      have hdrop : (first :: others).filter (·.span.stop = last) = [] :=
        List.filter_eq_nil_iff.2 fun g hg => by
          rw [hgroup g hg, decide_eq_true_eq]
          exact Nat.ne_of_lt (Nat.lt_of_lt_of_le hlt hflast)
      rw [report, hhold, List.filter_append, hdrop, List.nil_append, ← List.singleton_append, hspan]
      refine ih (List.cons_ne_nil _ _) (List.forall_mem_singleton.2 hspan) hnext hasc
        (fun g hg => hle g (List.mem_append_right _ hg)) ?_
      obtain ⟨g, hg, hglast⟩ := hlast
      rcases List.mem_append.1 hg with hg | hg
      · exact absurd (List.mem_filter.2 ⟨hg, decide_eq_true hglast⟩) (hdrop ▸ List.not_mem_nil)
      · exact ⟨g, hg, hglast⟩
    · -- A match on the same span joins them.
      have hhold : hold visit ⟨t, first :: others, false⟩ f =
          (⟨t, first :: others ++ [f], false⟩, .skipMatchedAfterStart) := by
        simp [hold, hfirst, hstart]
      have happend : first :: others ++ f :: founds = (first :: others ++ [f]) ++ founds := by simp
      rw [happend] at hle hlast
      rw [report, hhold, happend, hspan]
      refine ih (List.cons_ne_nil _ _) (fun g hg => ?_) hnext hasc hle hlast
      rcases List.mem_append.1 hg with hg | hg
      · exact hgroup g hg
      · rw [List.mem_singleton.1 hg, hspan]

/-- The groups that a receiver which holds one back still has to pass on. -/
def pending : List (Found α) → List (List (Found α))
  | [] => []
  | f :: group => [f :: group]

theorem release_eq_deliver (visit : τ → List (Found α) → τ × Bool) (group : List (Found α)) (t : τ) :
    release visit ⟨t, group, false⟩ = deliver visit (pending group) t := by
  cases group with
  | nil => rfl
  | cons f group =>
    rw [release, pending, deliver]
    obtain ⟨t, goOn⟩ := visit t (f :: group)
    cases goOn <;> rfl

theorem pending_eq_singleton (hne : group ≠ []) : pending group = [group] := by
  cases group with
  | nil => exact absurd rfl hne
  | cons f group => rfl

/-- Reports from a new offset let the group go that was held back, and the receiver has its say. -/
theorem report_hold_of_start_ne (hne : group ≠ []) (hfounds : founds ≠ [])
    (hnew : ∀ f ∈ founds, ∀ g ∈ group, g.span.start ≠ f.span.start) :
    report (hold visit) start founds ⟨t, group, false⟩ ⟨none, false⟩ =
      if (visit t group).2 then report (hold visit) start founds ⟨(visit t group).1, [], false⟩ ⟨none, false⟩
      else (⟨(visit t group).1, [], true⟩, .terminated) := by
  obtain ⟨first, others, rfl⟩ := List.exists_cons_of_ne_nil hne
  obtain ⟨f, founds, rfl⟩ := List.exists_cons_of_ne_nil hfounds
  have hstart := hnew f List.mem_cons_self first List.mem_cons_self
  simp only [report, hold, ne_eq, hstart, not_false_eq_true, if_true]
  cases (visit t (first :: others)).2 <;> rfl

/-- Of the reports from one offset, the longest are held back. -/
theorem report_hold_reportsFrom (hs : start ≤ input.length) (hne : m.reportsFrom input start ≠ [])
    (hle : ∀ f ∈ m.reportsFrom input start, f.span.stop ≤ last)
    (hlast : ∃ f ∈ m.reportsFrom input start, f.span.stop = last) :
    report (hold visit) start (m.reportsFrom input start) ⟨t, [], false⟩ ⟨none, false⟩ =
      (⟨t, m.matchesOn input ⟨start, last⟩, false⟩, .exhausted ⟨some (behind ⟨start, last⟩), false⟩) := by
  have hasc := m.reportsFrom_ascending input start
  have hstart : ∀ f ∈ m.reportsFrom input start, f.span.start = start := fun f => start_of_mem_reportsFrom
  rw [← filter_reportsFrom hs]
  generalize m.reportsFrom input start = founds at *
  obtain ⟨f, founds, rfl⟩ := List.exists_cons_of_ne_nil hne
  have hstops : (f :: founds).Pairwise (·.span.stop ≤ ·.span.stop) := by
    refine hasc.imp_of_mem fun {g g'} hg hg' hlt => ?_
    rw [Found.rank_lt, hstart g hg, hstart g' hg'] at hlt
    omega
  obtain ⟨hfirst, hstops⟩ := List.pairwise_cons.1 hstops
  have hspan : f.span = ⟨start, f.span.stop⟩ := by rw [← hstart f List.mem_cons_self]
  rw [report, hold, hspan]
  exact report_hold (List.cons_ne_nil _ _) (List.forall_mem_singleton.2 hspan)
    (fun g hg => ⟨hstart g (List.mem_cons_of_mem _ hg), hfirst g hg⟩) hstops hle hlast

/-- The loop of a leftmost-longest scan: with a group held back from before, it passes on this group
and those of the tokens from the current offset on. -/
theorem scanWithin_hold (hm : m.Covers) (hfuel : input.length < start + fuel)
    (hgroup : ∀ f ∈ group, f.span.start < start) (htokens : m.automaton.Tokens input start spans) :
    release visit (m.scanWithin input (hold visit) fuel start ⟨t, group, false⟩) =
      deliver visit (pending group ++ spans.map (m.matchesOn input)) t := by
  induction fuel generalizing start spans group t with
  | zero =>
    obtain rfl : spans = [] := htokens.unique (.done fun s e hs hse hle => by omega)
    rw [scanWithin, release_eq_deliver, List.map_nil, List.append_nil]
  | succ fuel ih =>
    rw [scanWithin]
    split
    · rename_i hlt
      obtain rfl : spans = [] := htokens.unique (.done fun s e hs hse hle => by omega)
      rw [release_eq_deliver, List.map_nil, List.append_nil]
    rename_i hs
    have hs : start ≤ input.length := Nat.le_of_not_lt hs
    rw [reportStops_eq_report, ← reportsFrom]
    by_cases hfounds : m.reportsFrom input start = []
    · -- Nothing starts here, and the group is still held back at the next offset.
      have hpass : ∀ e, start ≤ e → e ≤ input.length → m.automaton.isMatch (input.extract start e) = false :=
        fun e hse hle => Bool.eq_false_iff.2 fun hmatch => by
          obtain ⟨f, hf, -⟩ := (isMatch_extract_iff hm hs).1 ⟨hse, hle, hmatch⟩
          exact List.ne_nil_of_mem hf hfounds
      rw [hfounds]
      exact @ih (start + 1) _ _ _ (by omega) (fun f hf => Nat.lt_succ_of_lt (hgroup f hf))
        ((Automaton.tokens_succ_iff hpass).1 htokens)
    · obtain ⟨last, rest, rfl, hrest, hle, hlast⟩ := exists_token_of_reportsFrom hm hs hfounds htokens
      have hround : ∀ t, report (hold visit) start (m.reportsFrom input start) ⟨t, [], false⟩ ⟨none, false⟩ =
          (⟨t, m.matchesOn input ⟨start, last⟩, false⟩, .exhausted ⟨some (behind ⟨start, last⟩), false⟩) :=
        fun t => report_hold_reportsFrom hs hfounds hle hlast
      have hnext : ∀ t, release visit (m.scanWithin input (hold visit) fuel (behind ⟨start, last⟩)
          ⟨t, m.matchesOn input ⟨start, last⟩, false⟩) =
            deliver visit ((⟨start, last⟩ :: rest).map (m.matchesOn input)) t := fun t => by
        have hbehind : start < behind ⟨start, last⟩ := Nat.le_max_right ..
        have hstarts : ∀ f ∈ m.matchesOn input ⟨start, last⟩, f.span.start < behind ⟨start, last⟩ :=
          fun f hf => by rwa [(mem_matchesOn.1 hf).2]
        rw [ih (by omega) hstarts hrest, pending_eq_singleton (matchesOn_ne_nil hs hlast)]
        rfl
      by_cases hg : group = []
      · rw [hg, hround]
        exact hnext t
      · have hnew : ∀ f ∈ m.reportsFrom input start, ∀ g ∈ group, g.span.start ≠ f.span.start :=
          fun f hf g hg => start_of_mem_reportsFrom hf ▸ Nat.ne_of_lt (hgroup g hg)
        rw [report_hold_of_start_ne hg hfounds hnew, pending_eq_singleton hg, List.singleton_append, deliver]
        obtain ⟨t, goOn⟩ := visit t group
        cases goOn with
        | true =>
          rw [if_pos rfl, hround]
          exact hnext t
        | false => rfl

/-- A receiver that always asks for more gets all groups. -/
theorem deliver_of_goOn (hv : ∀ t group, (visit t group).2 = true) (groups : List (List (Found α))) (t : τ) :
    deliver visit groups t = groups.foldl (fun t group => (visit t group).1) t := by
  induction groups generalizing t with
  | nil => rfl
  | cons group groups ih =>
    have hgroup : visit t group = ((visit t group).1, true) := Prod.ext rfl (hv t group)
    rw [deliver, hgroup]
    exact ih _

theorem findLongestWith_eq (hm : m.Covers) (h : m.automaton.Tokens input 0 spans)
    (visit : τ → List (Found α) → τ × Bool) (t : τ) :
    m.findLongestWith input visit t = deliver visit (spans.map (m.matchesOn input)) t :=
  scanWithin_hold hm (by omega) (List.forall_mem_nil _) h

theorem findLongest_eq (hm : m.Covers) (h : m.automaton.Tokens input 0 spans) :
    m.findLongest input = spans.flatMap (m.matchesOn input) := by
  rw [findLongest, findLongestWith_eq hm h, deliver_of_goOn fun _ _ => rfl, List.foldl_map]
  exact List.flatMap_eq_foldl.symm

/-- Leftmost-longest scanning passes on one group for every token of the input until the receiver
has enough. A group has a match for every pattern that accepts the token. -/
theorem findLongest_tokens (hm : m.Covers) (input : List Nat) :
    (∃! spans, m.automaton.Tokens input 0 spans) ∧ ∀ spans, m.automaton.Tokens input 0 spans →
      (∀ {τ : Type} (visit : τ → List (Found α) → τ × Bool) (t : τ),
        m.findLongestWith input visit t = deliver visit (spans.map (m.matchesOn input)) t) ∧
      (∀ span ∈ spans, (∀ f ∈ m.matchesOn input span, f.span = span) ∧
        (m.matchesOn input span).map (·.pattern) =
          (m.automaton.accepts (input.extract span.start span.stop)).toList) ∧
      spans.Pairwise (fun span span' => span.start < span'.start ∧ span.stop ≤ span'.start) ∧
      m.findLongest input = spans.flatMap (m.matchesOn input) := by
  obtain ⟨spans, hspans⟩ := m.automaton.exists_tokens input 0
  refine ⟨⟨spans, hspans, fun spans' h => h.unique hspans⟩, fun spans h =>
    ⟨findLongestWith_eq hm h, fun span hspan => ?_, h.pairwise, findLongest_eq hm h⟩⟩
  obtain ⟨p, htoken⟩ := h.exists_token hspan
  exact ⟨fun f hf => (mem_matchesOn.1 hf).2, map_pattern_matchesOn hm htoken.start_le_stop htoken.stop_le⟩

/-- Around the two letters there is the empty slice to match, and on them both patterns match. -/
theorem findLongest_tokens_overlappingPatterns : ∃ m,
    (⟨[], 10, true⟩ : MatcherBuilder Captured).buildAll .bytes overlappingPatterns = .ok m ∧
      (∃ spans, m.automaton.Tokens [98, 97, 97] 0 spans ∧
        m.findLongest [98, 97, 97] = spans.flatMap (m.matchesOn [98, 97, 97])) ∧
      (m.findLongest [98, 97, 97]).map (fun f => (f.span, f.pattern)) =
        [(⟨0, 0⟩, 1), (⟨1, 3⟩, 0), (⟨1, 3⟩, 1), (⟨3, 3⟩, 1)] := by
  have hfound : ((⟨[], 10, true⟩ : MatcherBuilder Captured).buildAll .bytes overlappingPatterns).toOption.map
      (fun m => (m.findLongest [98, 97, 97]).map fun f => (f.span, f.pattern)) =
        some [(⟨0, 0⟩, 1), (⟨1, 3⟩, 0), (⟨1, 3⟩, 1), (⟨3, 3⟩, 1)] := by
    decide +kernel
  cases h : (⟨[], 10, true⟩ : MatcherBuilder Captured).buildAll .bytes overlappingPatterns with
  | error err => simp [h, Except.toOption] at hfound
  | ok m =>
    rw [h] at hfound
    obtain ⟨⟨spans, hspans, -⟩, hall⟩ := findLongest_tokens (covers_of_buildAll h) [98, 97, 97]
    exact ⟨m, rfl, ⟨spans, hspans, (hall spans hspans).2.2.2⟩, Option.some.inj hfound⟩

end Matcher

end Polymatch
