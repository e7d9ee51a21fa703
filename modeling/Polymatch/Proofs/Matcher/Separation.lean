import Mathlib.Data.List.Sort
import Polymatch.Proofs.Matcher.Entries

/-! # Separate patterns

A matcher of several patterns finds what the matchers of the single patterns find:
it matches an input with the patterns whose own matchers do, its scan reports their
reports in one common order, and every match has the groups that its own matcher
captures.
-/

namespace Polymatch

namespace Automaton

variable {a : Automaton} {i s : Nat}

theorem map_trace? (a : Automaton) (i s : Nat) (w : List Nat) :
    (a.trace? i s w).map (·.2) = a.walk? i s w := by
  induction w generalizing s with
  | nil => rfl
  | cons x w ih =>
    rw [trace?, walk?, Option.map_bind]
    refine congrArg _ (funext fun k => ?_)
    rw [Function.comp, Option.map_map, ← ih]
    rfl

/-- A pattern accepts an input if it halts there. -/
theorem mem_accepts_iff_halts {w : List Nat} :
    i ∈ a.accepts w ↔ i < a.patterns ∧ ∃ t exit, a.Halts i a.start w t exit := by
  rw [mem_accepts]
  refine and_congr_right fun _ => ?_
  simp only [← map_trace?, Option.map_eq_some_iff, Halts]
  constructor
  · rintro ⟨_, ⟨⟨t, s⟩, ht, rfl⟩, ha⟩
    exact ⟨t, _, s, ht, ha, rfl⟩
  · rintro ⟨t, _, s, ht, ha, rfl⟩
    exact ⟨s, ⟨(t, s), ht, rfl⟩, ha⟩

theorem isMatch_of_halts {w : List Nat} {t : List (Nat × Marks)} {exit : Marks} (hi : i < a.patterns)
    (h : a.Halts i a.start w t exit) : a.isMatch w = true := by
  rw [isMatch, Bool.not_eq_true', SortedSet.isEmpty_eq_false]
  exact ⟨i, mem_accepts_iff_halts.2 ⟨hi, t, exit, h⟩⟩

end Automaton

namespace Found

variable {α : Type} {f g : Found α}

theorem under_rank_lt (h : f.rank < g.rank) (hp : f.pattern = g.pattern) (i : Nat) :
    (f.under i).rank < (g.under i).rank := by
  rw [rank_lt, hp] at h
  rw [rank_lt]
  rcases h with h | ⟨hs, h | ⟨-, h⟩⟩
  · exact .inl h
  · exact .inr ⟨hs, .inl h⟩
  · exact (Nat.lt_irrefl _ h).elim

/-- Ascending lists of matches are determined by their members. -/
theorem eq_of_ascending {l l' : List (Found α)} (h : l.Pairwise (·.rank < ·.rank))
    (h' : l'.Pairwise (·.rank < ·.rank)) (hm : ∀ f, f ∈ l ↔ f ∈ l') : l = l' := by
  have : Std.Irrefl fun f g : Found α => f.rank < g.rank := ⟨fun f => lt_irrefl f.rank⟩
  have : Std.Antisymm fun f g : Found α => f.rank < g.rank := ⟨fun _ _ h h' => (lt_asymm h h').elim⟩
  exact h.eq_of_mem_iff h' hm

/-- An ascending list is what sorting makes of its members. -/
theorem eq_mergeSort {l l' : List (Found α)} (h : l.Pairwise (·.rank < ·.rank)) (h' : l'.Nodup)
    (hm : ∀ f, f ∈ l ↔ f ∈ l') : l = l'.mergeSort fun f g => f.rank ≤ g.rank := by
  have hnodup : l.Nodup := h.imp fun hlt heq => (heq ▸ hlt).ne rfl
  have hperm : l.Perm (l'.mergeSort fun f g => f.rank ≤ g.rank) :=
    ((List.perm_ext_iff_of_nodup hnodup h').2 hm).trans (List.mergeSort_perm ..).symm
  have hsorted : (l'.mergeSort fun f g => f.rank ≤ g.rank).Pairwise fun f g => f.rank ≤ g.rank := by
    simpa only [decide_eq_true_eq] using @List.pairwise_mergeSort _ (fun f g : Found α => f.rank ≤ g.rank)
      (fun f g k => by simpa using le_trans) (fun f g => by simpa using le_total f.rank g.rank) l'
  refine List.Perm.eq_of_pairwise (fun f g hf hg hfg hgf => ?_) (h.imp le_of_lt) hsorted hperm
  have hranks : (l.map rank).Nodup := (List.pairwise_map.2 h).imp fun hlt heq => (heq ▸ hlt).ne rfl
  exact List.inj_on_of_nodup_map hranks hf (hperm.mem_iff.2 hg) (le_antisymm hfg hgf)

end Found

namespace MatcherBuilder

/-- Add some patterns whose matches keep their groups, and build the matcher. -/
def buildAll (b : MatcherBuilder Captured) (σ : Alphabet) (ps : List Pattern) :
    Except BuildError (Matcher Captured) := do
  let b ← ps.foldlM (fun b p => b.pattern σ p fun _ captured => captured) b
  b.build

variable {α : Type} {σ : Alphabet} {construct : Constructor α} {b b' : MatcherBuilder α}

/-- Patterns are added as their entries, in order. -/
theorem entries_of_foldlM {β : Type} (f : β → Pattern × Constructor α) {qs : List β}
    (h : qs.foldlM (fun b q => b.pattern σ (f q).1 (f q).2) b = .ok b') :
    ∃ es, List.Forall₂ (fun q e => entry σ (f q).1 (f q).2 = .ok e) qs es ∧ (∀ e ∈ es, e.Valid) ∧
      b' = { b with entries := b.entries ++ es } := by
  induction qs generalizing b with
  | nil =>
    obtain rfl := Except.ok.inj h
    exact ⟨[], .nil, List.forall_mem_nil _, by rw [List.append_nil]⟩
  | cons q qs ih =>
    obtain ⟨next, hq, hrest⟩ := bind_eq_ok.1 h
    obtain ⟨e, he, hnext⟩ := bind_eq_ok.1 hq
    obtain rfl := Except.ok.inj hnext
    obtain ⟨es, hes, hv, rfl⟩ := ih hrest
    refine ⟨e :: es, .cons he hes, List.forall_mem_cons.2 ⟨valid_entry he, hv⟩, ?_⟩
    simp only [List.append_assoc, List.singleton_append]

theorem build_single {e : Entry α} (he : e.Valid) {b : MatcherBuilder α} (h : b.entries = [e]) :
    b.build = .ok e.alone := by
  have hchecked : Matcher.new e.automaton [e.layout] [e.construct] =
      .ok ⟨e.automaton, [e.layout], [e.construct], []⟩ := by
    rw [Matcher.new, he.patterns]
    rfl
  rw [build, h]
  simp only [List.foldlM_nil, bind, Except.bind, pure, Except.pure, hchecked]
  rfl

theorem buildAll_single {p : Pattern} {e : Entry Captured}
    (h : entry σ p (fun _ captured => captured) = .ok e) : new.buildAll σ [p] = .ok e.alone := by
  have hpattern : (new : MatcherBuilder Captured).pattern σ p (fun _ captured => captured) =
      .ok { (new : MatcherBuilder Captured) with entries := [e] } := by
    rw [pattern, h]
    rfl
  rw [buildAll, List.foldlM_cons, hpattern]
  exact build_single (b := { (new : MatcherBuilder Captured) with entries := [e] }) (valid_entry h) rfl

end MatcherBuilder

namespace Matcher

variable {α : Type} {m : Matcher α} {es : List (Entry α)} {e : Entry α} {input : List Nat} {f g : Found α}
  {i : Nat}

/-- Everything that a scan reports. -/
def collect (m : Matcher α) (input : List Nat) : List (Found α) :=
  m.scan input (fun founds found => (founds ++ [found], .continueAll)) []

theorem collect_eq_reports (m : Matcher α) (input : List Nat) : m.collect input = m.reports input := by
  rw [collect, scan_continueAll fun _ _ => rfl]
  exact (List.foldl_append_eq_append ..).trans (List.flatMap_singleton' _)

/-- The matches of several matchers, each under the place of its matcher. -/
def together (matchers : List (Matcher α)) (found : Matcher α → List (Found α)) : List (Found α) :=
  matchers.zipIdx.flatMap fun m => (found m.1).map (·.under m.2)

theorem mem_together {found : Matcher α → List (Found α)}
    (hz : ∀ e ∈ es, ∀ f ∈ found e.alone, f.pattern = 0) : f ∈ together (es.map Entry.alone) found ↔
      ∃ e, es[f.pattern]? = some e ∧ f.under 0 ∈ found e.alone := by
  simp only [together, List.mem_flatMap, List.mem_map, Prod.exists, List.mk_mem_zipIdx_iff_getElem?,
    List.getElem?_map, Option.map_eq_some_iff]
  constructor
  · rintro ⟨_, i, ⟨e, he, rfl⟩, g, hg, rfl⟩
    have hpattern := hz e (List.mem_of_getElem? he) g hg
    obtain ⟨_, span, value⟩ := g
    subst hpattern
    exact ⟨e, he, hg⟩
  · rintro ⟨e, he, h⟩
    exact ⟨_, _, ⟨e, he, rfl⟩, _, h, rfl⟩

theorem mem_exactAll : f ∈ m.exactAll input ↔
    f ∈ m.reportsFrom input 0 ∧ f.span.stop = input.length := by
  rw [exactAll_eq, List.mem_filter, decide_eq_true_eq]

theorem span_of_mem_exactAll (h : f ∈ m.exactAll input) : f.span = ⟨0, input.length⟩ := by
  obtain ⟨hf, hstop⟩ := mem_exactAll.1 h
  rw [← hstop, ← start_of_mem_reportsFrom hf]

theorem exactAll_ascending (m : Matcher α) (input : List Nat) :
    (m.exactAll input).Pairwise (·.rank < ·.rank) := by
  rw [exactAll_eq]
  exact (m.reportsFrom_ascending input 0).filter _

/-- A single pattern matches an input exactly if its match is found. -/
theorem isMatch_alone (he : e.Valid) :
    e.alone.isMatch input = true ↔ ∃ f, f ∈ e.alone.exactAll input := by
  have hmatch : e.alone.isMatch input = true ↔ ∃ i, i ∈ e.automaton.accepts input := by
    rw [isMatch, Automaton.isMatch, Bool.not_eq_true', SortedSet.isEmpty_eq_false]
    rfl
  rw [hmatch]
  simp only [mem_exactAll, mem_reportsFrom, Automaton.mem_accepts_iff_halts, List.drop_zero]
  constructor
  · rintro ⟨i, hi, t, exit, ht⟩
    obtain rfl : i = 0 := by
      rw [he.patterns] at hi
      omega
    have hl : e.alone.layouts[0]? = some e.layout := rfl
    have hc : e.alone.constructors[0]? = some e.construct := rfl
    have hfound : e.alone.Yields input 0 ⟨0, ⟨0, 0 + input.length⟩, _⟩ _ exit (.record ∅ 0 t) :=
      found?_eq hl hc _
    refine ⟨_, ⟨hi, input.length, Nat.le_refl _, t, exit, ?_, hfound⟩, Nat.zero_add _⟩
    rwa [List.take_length]
  · rintro ⟨f, ⟨hi, n, -, t, exit, ht, hf⟩, hstop⟩
    rw [(of_found? hf).2] at hstop
    obtain rfl : n = input.length := by
      rw [← hstop, Nat.zero_add]
    rw [List.take_length] at ht
    exact ⟨f.pattern, hi, t, exit, ht⟩

/-- A matcher of several patterns finds on an input what the matchers of the patterns find. -/
structure Separates (m : Matcher α) (singles : List (Matcher α)) (input : List Nat) : Prop where
  /-- The input is matched by the patterns whose matchers match it. -/
  ids : (m.exactAll input).map (·.pattern) =
    (List.range singles.length).filter fun i => singles[i]?.any (·.isMatch input)
  exact : m.exactAll input = together singles (·.exactAll input)
  /-- A scan that nothing interrupts passes on the reports of all scans in order. -/
  scan : ∀ {τ : Type} (visit : τ → Found α → τ × Action), (∀ t f, (visit t f).2 = .continueAll) →
    ∀ t, m.scan input visit t = ((together singles (·.collect input)).mergeSort
      fun f g => f.rank ≤ g.rank).foldl (fun t f => (visit t f).1) t

theorem nodup_together {matchers : List (Matcher α)} {found : Matcher α → List (Found α)}
    (h : ∀ m ∈ matchers, ∀ i, ((found m).map (·.under i)).Nodup) : (together matchers found).Nodup := by
  rw [together, List.nodup_flatMap]
  refine ⟨fun m hm => h m.1 (List.fst_mem_of_mem_zipIdx hm) m.2, ?_⟩
  have hplaces : matchers.zipIdx.Pairwise fun m m' => m.2 ≠ m'.2 := by
    rw [← List.pairwise_map, List.zipIdx_map_snd]
    exact List.nodup_range'
  refine hplaces.imp fun {m m'} hne f hf hf' => ?_
  obtain ⟨g, -, rfl⟩ := List.mem_map.1 hf
  obtain ⟨g', -, heq⟩ := List.mem_map.1 hf'
  exact hne (congrArg Found.pattern heq).symm

theorem lt_of_mem_exactAll (h : f.rank < g.rank) (hf : f ∈ m.exactAll input) (hg : g ∈ m.exactAll input) :
    f.pattern < g.pattern := by
  rw [Found.rank_lt, span_of_mem_exactAll hf, span_of_mem_exactAll hg] at h
  omega

theorem under_ascending {l : List (Found α)} (h : l.Pairwise (·.rank < ·.rank))
    (hz : ∀ f ∈ l, f.pattern = 0) (i : Nat) : (l.map (·.under i)).Pairwise (·.rank < ·.rank) :=
  List.pairwise_map.2 (h.imp_of_mem fun hf hg hlt =>
    Found.under_rank_lt hlt ((hz _ hf).trans (hz _ hg).symm) i)

/-- Matches of the whole input ascend if they come from the matchers in order. -/
theorem together_exactAll_ascending (hz : ∀ e ∈ es, ∀ f ∈ e.alone.exactAll input, f.pattern = 0) :
    (together (es.map Entry.alone) (·.exactAll input)).Pairwise (·.rank < ·.rank) := by
  rw [together, List.pairwise_flatMap]
  constructor
  · intro m hm
    obtain ⟨e, he, heq⟩ := List.mem_map.1 (List.fst_mem_of_mem_zipIdx hm)
    rw [← heq]
    exact under_ascending (exactAll_ascending _ input) (hz e he) m.2
  · have hplaces : (es.map Entry.alone).zipIdx.Pairwise fun m m' => m.2 < m'.2 := by
      rw [← List.pairwise_map, List.zipIdx_map_snd]
      exact List.pairwise_lt_range'
    refine hplaces.imp fun {m m'} hlt f hf g hg => ?_
    obtain ⟨f', hf', rfl⟩ := List.mem_map.1 hf
    obtain ⟨g', hg', rfl⟩ := List.mem_map.1 hg
    have hspan : f'.span = g'.span := (span_of_mem_exactAll hf').trans (span_of_mem_exactAll hg').symm
    exact Found.rank_lt.2 (.inr ⟨congrArg Span.start hspan, .inr ⟨congrArg Span.stop hspan, hlt⟩⟩)

/-- A matcher of some entries finds what the matchers of the single entries find. -/
theorem Unites.separates {m : Matcher α} (hm : m.Unites es) (hv : ∀ e ∈ es, e.Valid) (input : List Nat) :
    m.Separates (es.map Entry.alone) input := by
  have hzero : ∀ e ∈ es, ∀ start, ∀ f ∈ e.alone.reportsFrom input start, f.pattern = 0 :=
    fun e he start f hf => pattern_of_mem_alone (hv e he) hf
  have hzExact : ∀ e ∈ es, ∀ f ∈ e.alone.exactAll input, f.pattern = 0 :=
    fun e he f hf => hzero e he _ f (mem_exactAll.1 hf).1
  have hzReports : ∀ e ∈ es, ∀ f ∈ e.alone.reports input, f.pattern = 0 :=
    fun e he f hf => hzero e he _ f (mem_reports.1 hf).2
  have hexact : ∀ f, f ∈ m.exactAll input ↔ ∃ e, es[f.pattern]? = some e ∧
      f.under 0 ∈ e.alone.exactAll input := by
    intro f
    simp only [mem_exactAll, hm.mem_reportsFrom hv, ← exists_and_right, and_assoc]
    rfl
  have hreports : ∀ f, f ∈ m.reports input ↔ ∃ e, es[f.pattern]? = some e ∧
      f.under 0 ∈ e.alone.reports input := by
    intro f
    simp only [mem_reports, hm.mem_reportsFrom hv, ← exists_and_left]
    exact exists_congr fun e => and_left_comm
  refine ⟨?_, ?_, ?_⟩
  · refine List.Pairwise.eq_of_mem_iff (List.pairwise_map.2 ?_) (List.pairwise_lt_range.filter _) fun i => ?_
    · exact (m.exactAll_ascending input).imp_of_mem fun hf hg hlt => lt_of_mem_exactAll hlt hf hg
    · simp only [List.mem_map, hexact, List.mem_filter, List.mem_range, List.length_map, List.getElem?_map]
      constructor
      · rintro ⟨f, ⟨e, he, hf⟩, rfl⟩
        obtain ⟨hlt, heq⟩ := List.getElem?_eq_some_iff.1 he
        refine ⟨hlt, ?_⟩
        rw [he]
        exact (isMatch_alone (hv e (List.mem_of_getElem? he))).2 ⟨_, hf⟩
      · rintro ⟨hlt, h⟩
        have he := List.getElem?_eq_getElem hlt
        rw [he] at h
        obtain ⟨f, hf⟩ := (isMatch_alone (hv _ (List.getElem_mem hlt))).1 h
        have hpattern := hzExact _ (List.getElem_mem hlt) f hf
        refine ⟨f.under i, ⟨_, he, ?_⟩, rfl⟩
        obtain ⟨_, span, value⟩ := f
        subst hpattern
        exact hf
  · refine Found.eq_of_ascending (m.exactAll_ascending input) (together_exactAll_ascending hzExact) fun f => ?_
    rw [hexact, mem_together hzExact]
  · intro τ visit hvisit t
    simp only [collect_eq_reports]
    rw [scan_continueAll hvisit]
    congr 1
    refine Found.eq_mergeSort (m.reports_ascending input) (nodup_together fun m hm i => ?_) fun f => ?_
    · obtain ⟨e, he, rfl⟩ := List.mem_map.1 hm
      have hasc := under_ascending (e.alone.reports_ascending input) (hzReports e he) i
      exact hasc.imp fun hlt heq => (heq ▸ hlt).ne rfl
    · rw [hreports, mem_together hzReports]

/-- A matcher that captures groups finds what the matchers of its single patterns find. -/
theorem exists_separates {σ : Alphabet} {ps : List Pattern} {depth : Nat} {m : Matcher Captured}
    (h : (⟨[], depth, true⟩ : MatcherBuilder Captured).buildAll σ ps = .ok m) :
    ∃ singles, List.Forall₂ (fun p s => MatcherBuilder.new.buildAll σ [p] = .ok s) ps singles ∧
      ∀ input, m.Separates singles input := by
  rw [MatcherBuilder.buildAll] at h
  cases hfold : ps.foldlM (fun b p => b.pattern σ p fun _ captured => captured)
      (⟨[], depth, true⟩ : MatcherBuilder Captured) with
  | error err => simp [hfold, bind, Except.bind] at h
  | ok b =>
    rw [hfold] at h
    obtain ⟨es, hes, hv, rfl⟩ :=
      MatcherBuilder.entries_of_foldlM (fun p => (p, fun _ captured => captured)) hfold
    have hm := unites_build hv h
    refine ⟨es.map Entry.alone, ?_, hm.separates hv⟩
    rw [List.forall₂_map_right_iff]
    exact hes.imp fun p e he => MatcherBuilder.buildAll_single he

/-- A letter in a group with more of it behind, and a loop around such a group. -/
def overlappingPatterns : List Pattern :=
  [.sequence [.group [0] (.symbols [⟨97, 98⟩]), .loop (.symbols [⟨97, 98⟩]) 0 .plain],
    .loop (.group [0] (.symbols [⟨97, 98⟩])) 0 .plain]

theorem exists_separates_overlappingPatterns : ∃ m,
    (⟨[], 10, true⟩ : MatcherBuilder Captured).buildAll .bytes overlappingPatterns = .ok m ∧
      ∃ singles, List.Forall₂ (fun p s => MatcherBuilder.new.buildAll .bytes [p] = .ok s)
        overlappingPatterns singles ∧ ∀ input, m.Separates singles input := by
  have hok : ((⟨[], 10, true⟩ : MatcherBuilder Captured).buildAll .bytes overlappingPatterns).isOk = true := by
    decide +kernel
  cases h : (⟨[], 10, true⟩ : MatcherBuilder Captured).buildAll .bytes overlappingPatterns with
  | error err => simp [h, Except.isOk, Except.toBool] at hok
  | ok m => exact ⟨m, rfl, exists_separates h⟩

end Matcher

end Polymatch
