import Mathlib.Data.List.Pairwise
import Mathlib.Data.Prod.Lex
import Polymatch.Proofs.Matcher.Stops

/-! # Reports in order

A scan that nothing interrupts reports, from every start offset, the matches at the
accepting places. Start offset, end and pattern of the reports ascend, and each of
them identifies its report.
-/

namespace Polymatch

namespace Found

variable {α : Type}

/-- Reports are ordered by start, then by end, then by pattern. -/
def rank (f : Found α) : ℕ ×ₗ ℕ ×ₗ ℕ := toLex (f.span.start, toLex (f.span.stop, f.pattern))

theorem rank_lt {f g : Found α} : f.rank < g.rank ↔ f.span.start < g.span.start ∨
    f.span.start = g.span.start ∧ (f.span.stop < g.span.stop ∨
      f.span.stop = g.span.stop ∧ f.pattern < g.pattern) := by
  simp only [rank, Prod.Lex.toLex_lt_toLex]

theorem rank_inj {f g : Found α} : f.rank = g.rank ↔ f.span = g.span ∧ f.pattern = g.pattern := by
  obtain ⟨i, ⟨s, t⟩, _⟩ := f
  obtain ⟨j, ⟨s', t'⟩, _⟩ := g
  simp only [rank, EmbeddingLike.apply_eq_iff_eq, Prod.mk.injEq, Span.mk.injEq, and_assoc]

end Found

namespace Matcher

variable {α τ : Type} {m : Matcher α} {input : List Nat} {start i : Nat} {f : Found α}
  {visit : τ → Found α → τ × Action}

/-- The matches reported from a start offset. -/
def reportsFrom (m : Matcher α) (input : List Nat) (start : Nat) : List (Found α) :=
  (m.automaton.stops input start).flatMap (m.foundAt input start)

/-- The matches reported from all start offsets. -/
def reports (m : Matcher α) (input : List Nat) : List (Found α) :=
  (List.range (input.length + 1)).flatMap (m.reportsFrom input)

/-- Reports go on behind others unless one of these breaks off. -/
theorem report_append (visit : τ → Found α → τ × Action) (start : Nat) (founds founds' : List (Found α)) (t : τ)
    (plan : Plan) : report visit start (founds ++ founds') t plan =
      match report visit start founds t plan with
      | (t, .exhausted plan) => report visit start founds' t plan
      | broken => broken := by
  induction founds generalizing t plan with
  | nil => rfl
  | cons f founds ih =>
    simp only [List.cons_append, report]
    split
    case h_1 | h_3 | h_5 | h_7 => exact ih ..
    all_goals rfl

/-- The places of one offset are passed by reporting all matches found there. -/
theorem reportStops_eq_report (m : Matcher α) (input : List Nat) (visit : τ → Found α → τ × Action)
    (start : Nat) (stops : List Automaton.Stop) (t : τ) (plan : Plan) :
    m.reportStops input visit start stops t plan =
      report visit start (stops.flatMap (m.foundAt input start)) t plan := by
  induction stops generalizing t plan with
  | nil => rfl
  | cons st stops ih =>
    rw [reportStops, List.flatMap_cons, report_append]
    obtain ⟨t, outcome⟩ := report visit start (m.foundAt input start st) t plan
    cases outcome with
    | exhausted plan => exact ih t plan
    | terminated => rfl
    | restart offset => rfl

theorem report_continueAll (hv : ∀ t f, (visit t f).2 = .continueAll) (start : Nat)
    (founds : List (Found α)) (t : τ) (plan : Plan) :
    report visit start founds t plan = (founds.foldl (fun t f => (visit t f).1) t, .exhausted plan) := by
  induction founds generalizing t with
  | nil => rfl
  | cons f founds ih =>
    have hf : visit t f = ((visit t f).1, .continueAll) := Prod.ext rfl (hv t f)
    rw [report, hf]
    exact ih _

theorem scanWithin_continueAll (hv : ∀ t f, (visit t f).2 = .continueAll) (m : Matcher α)
    {fuel : Nat} (hfuel : start + fuel = input.length + 1) (t : τ) :
    m.scanWithin input visit fuel start t =
      ((List.range' start fuel).flatMap (m.reportsFrom input)).foldl (fun t f => (visit t f).1) t := by
  induction fuel generalizing start t with
  | zero => rfl
  | succ fuel ih =>
    rw [scanWithin, if_neg (by omega), reportStops_eq_report, report_continueAll hv, List.range'_succ,
      List.flatMap_cons, List.foldl_append]
    exact @ih (start + 1) (by omega) _

/-- A scan that nothing interrupts passes all reports on. -/
theorem scan_continueAll (hv : ∀ t f, (visit t f).2 = .continueAll) (m : Matcher α) (input : List Nat)
    (t : τ) : m.scan input visit t = (m.reports input).foldl (fun t f => (visit t f).1) t := by
  rw [scan, scanWithin_continueAll hv m (Nat.zero_add _), reports, List.range_eq_range']

theorem found?_eq {layout : Layout} {construct : Constructor α} (hl : m.layouts[i]? = some layout)
    (hc : m.constructors[i]? = some construct) (st : Automaton.Stop) : m.found? input start st i =
      some ⟨i, ⟨start, st.stop⟩, construct input (m.capturedAt input start st i layout)⟩ := by
  rw [found?, hl, hc]

theorem of_found? {st : Automaton.Stop} (h : m.found? input start st i = some f) :
    f.pattern = i ∧ f.span = ⟨start, st.stop⟩ := by
  rw [found?] at h
  split at h
  · rw [← Option.some.inj h]
    exact ⟨rfl, rfl⟩
  · exact nomatch h

theorem mem_foundAt {st : Automaton.Stop} : f ∈ m.foundAt input start st ↔
    f.pattern ∈ st.accepted ∧ m.found? input start st f.pattern = some f := by
  rw [foundAt, List.mem_filterMap]
  constructor
  · rintro ⟨i, hi, h⟩
    obtain rfl := (of_found? h).1
    exact ⟨hi, h⟩
  · rintro ⟨hi, h⟩
    exact ⟨_, hi, h⟩

/-- The report of a pattern at a place where it accepts. -/
def Yields (m : Matcher α) (input : List Nat) (start : Nat) (f : Found α) (stop : Nat) (exit : Marks)
    (r : Recording) : Prop :=
  m.found? input start ⟨stop, ∅, exit, r⟩ f.pattern = some f

/-- The reports are the matches of the patterns at the places where their own runs accept. -/
theorem mem_reportsFrom : f ∈ m.reportsFrom input start ↔ f.pattern < m.automaton.patterns ∧
    m.automaton.HaltsWithin f.pattern m.automaton.start start ∅ (input.drop start)
      (m.Yields input start f) := by
  rw [← Automaton.stopsAt_stops, reportsFrom, List.mem_flatMap]
  exact exists_congr fun st => and_congr_right fun _ => mem_foundAt

theorem start_of_mem_reportsFrom (h : f ∈ m.reportsFrom input start) : f.span.start = start := by
  obtain ⟨st, -, hf⟩ := List.mem_flatMap.1 h
  rw [(of_found? (mem_foundAt.1 hf).2).2]

theorem mem_reports : f ∈ m.reports input ↔
    f.span.start ≤ input.length ∧ f ∈ m.reportsFrom input f.span.start := by
  rw [reports, List.mem_flatMap]
  constructor
  · rintro ⟨start, hs, hf⟩
    rw [start_of_mem_reportsFrom hf]
    exact ⟨Nat.le_of_lt_succ (List.mem_range.1 hs), hf⟩
  · rintro ⟨hs, hf⟩
    exact ⟨_, List.mem_range.2 (Nat.lt_succ_of_le hs), hf⟩

theorem foundAt_ascending (m : Matcher α) (input : List Nat) (start : Nat) (st : Automaton.Stop) :
    (m.foundAt input start st).Pairwise (·.pattern < ·.pattern) := by
  refine List.pairwise_filterMap.2 (st.accepted.ascending.imp fun {i j} hij f hf g hg => ?_)
  rw [(of_found? hf).1, (of_found? hg).1]
  exact hij

theorem reportsFrom_ascending (m : Matcher α) (input : List Nat) (start : Nat) :
    (m.reportsFrom input start).Pairwise (·.rank < ·.rank) := by
  rw [reportsFrom, List.pairwise_flatMap]
  constructor
  · intro st _
    refine (m.foundAt_ascending input start st).imp_of_mem fun {f g} hf hg hlt => ?_
    rw [Found.rank_lt, (of_found? (mem_foundAt.1 hf).2).2, (of_found? (mem_foundAt.1 hg).2).2]
    exact .inr ⟨rfl, .inr ⟨rfl, hlt⟩⟩
  · refine (m.automaton.stopsFrom_ascending _ _ _ _).imp fun {st st'} hlt f hf g hg => ?_
    rw [Found.rank_lt, (of_found? (mem_foundAt.1 hf).2).2, (of_found? (mem_foundAt.1 hg).2).2]
    exact .inr ⟨rfl, .inl hlt⟩

/-- Reports come in order, and each of them once. -/
theorem reports_ascending (m : Matcher α) (input : List Nat) :
    (m.reports input).Pairwise (·.rank < ·.rank) := by
  rw [reports, List.pairwise_flatMap]
  refine ⟨fun start _ => m.reportsFrom_ascending input start, ?_⟩
  refine List.pairwise_lt_range.imp fun {s s'} hlt f hf g hg => ?_
  rw [Found.rank_lt, start_of_mem_reportsFrom hf, start_of_mem_reportsFrom hg]
  exact .inl hlt

/-- The matches of the whole input are the reports from the first offset that end at the last. -/
theorem exactAll_eq (m : Matcher α) (input : List Nat) :
    m.exactAll input = (m.reportsFrom input 0).filter (·.span.stop = input.length) := by
  have hle : ∀ st ∈ m.automaton.stops input 0, st.stop ≤ input.length := fun st hst => by
    simpa using (Automaton.le_of_mem_stopsFrom hst).2
  have hasc := m.automaton.stopsFrom_ascending m.automaton.initial ∅ 0 (input.drop 0)
  have hfilter : ∀ st : Automaton.Stop, (m.foundAt input 0 st).filter (·.span.stop = input.length) =
      if st.stop = input.length then m.foundAt input 0 st else [] := by
    intro st
    have hstop : ∀ f ∈ m.foundAt input 0 st, f.span.stop = st.stop := fun f hf => by
      rw [(of_found? (mem_foundAt.1 hf).2).2]
    split
    · rename_i h
      exact List.filter_eq_self.2 fun f hf => decide_eq_true ((hstop f hf).trans h)
    · rename_i h
      exact List.filter_eq_nil_iff.2 fun f hf => by simpa only [decide_eq_true_eq, hstop f hf] using h
  rw [exactAll, reportsFrom]
  rw [Automaton.stops] at hle ⊢
  generalize m.automaton.stopsFrom m.automaton.initial ∅ 0 (input.drop 0) = stops at hle hasc
  -- Only the last place can lie at the end of the input.
  rcases List.eq_nil_or_concat stops with rfl | ⟨before, last, rfl⟩
  · rfl
  · rw [List.concat_eq_append, List.pairwise_append] at hasc
    have hbefore : (before.flatMap (m.foundAt input 0)).filter (·.span.stop = input.length) = [] := by
      rw [List.filter_flatMap, List.flatMap_eq_nil_iff]
      intro st hst
      have hlt := hasc.2.2 st hst last List.mem_cons_self
      have hlast := hle last (by simp)
      rw [hfilter, if_neg (by omega)]
    rw [List.concat_eq_append, List.getLast?_concat, List.flatMap_append, List.filter_append, hbefore,
      List.nil_append, List.flatMap_singleton, hfilter]

end Matcher

end Polymatch
