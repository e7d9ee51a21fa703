import Polymatch.Proofs.Matcher.Alternatives
import Polymatch.Proofs.Replay.Shift

/-! # Matches and their slices

A scan reports a match exactly where some pattern accepts the slice of the input
between two offsets. What it captures is what the slice captures by itself: nothing
in front of a match or behind it has a part in its groups.
-/

namespace Polymatch

theorem Automaton.length_of_halts {a : Automaton} {i s : Nat} {w : List Nat} {t : List (Nat × Marks)}
    {exit : Marks} (h : a.Halts i s w t exit) : t.length = w.length := by
  induction w generalizing s t with
  | nil =>
    obtain ⟨rfl, -⟩ := halts_nil.1 h
    rfl
  | cons x w ih =>
    obtain ⟨k, t', -, rfl, h'⟩ := halts_cons.1 h
    rw [List.length_cons, List.length_cons, ih h']

namespace Matcher

variable {α τ : Type} {m : Matcher α} {f : Found α} {input : List Nat} {start stop i n : Nat}

/-- Every pattern has a layout and a constructor. -/
structure Covers (m : Matcher α) : Prop where
  layouts : m.automaton.patterns ≤ m.layouts.length
  constructors : m.automaton.patterns ≤ m.constructors.length

theorem covers_of_new {automaton : Automaton} {layouts : List Layout} {constructors : List (Constructor α)}
    (h : new automaton layouts constructors = .ok m) : m.Covers := by
  unfold new at h
  simp only at h
  split at h
  · exact nomatch h
  · obtain rfl := Except.ok.inj h
    constructor
    · simp only
      omega
    · simp only
      omega

theorem covers_of_build {b : MatcherBuilder α} (h : b.build = .ok m) : m.Covers := by
  unfold MatcherBuilder.build at h
  split at h
  · exact nomatch h
  · rename_i first rest _
    obtain ⟨last, -, h⟩ := bind_eq_ok.1 h
    obtain ⟨checked, hnew, h⟩ := bind_eq_ok.1 h
    obtain rfl := Except.ok.inj h
    obtain ⟨hl, hc⟩ := covers_of_new hnew
    exact ⟨hl, hc⟩

theorem covers_of_buildAll {b : MatcherBuilder Captured} {σ : Alphabet} {ps : List Pattern}
    {m : Matcher Captured} (h : b.buildAll σ ps = .ok m) : m.Covers := by
  obtain ⟨b', -, hbuild⟩ := bind_eq_ok.1 h
  exact covers_of_build hbuild

/-- The matcher that answers the captured groups as its values. -/
def capturing (m : Matcher α) : Matcher Captured :=
  ⟨m.automaton, m.layouts, m.constructors.map fun _ _ captured => captured, m.programs⟩

theorem exists_yields {layout : Layout} {construct : Constructor α} (hl : m.layouts[i]? = some layout)
    (hc : m.constructors[i]? = some construct) (input : List Nat) (start stop : Nat) (exit : Marks)
    (r : Recording) : ∃ f, f.pattern = i ∧ f.span = ⟨start, stop⟩ ∧
      f.value = construct input (m.capturedAt input start ⟨stop, ∅, exit, r⟩ i layout) ∧
        m.Yields input start f stop exit r := by
  refine ⟨⟨i, ⟨start, stop⟩, construct input (m.capturedAt input start ⟨stop, ∅, exit, r⟩ i layout)⟩,
    rfl, rfl, rfl, ?_⟩
  exact found?_eq hl hc _

/-- The matches that a scan reports, slice by slice. -/
theorem mem_reports_iff : f ∈ m.reports input ↔ f.span.start ≤ f.span.stop ∧ f.span.stop ≤ input.length ∧
    f.pattern < m.automaton.patterns ∧ ∃ t exit,
      m.automaton.Halts f.pattern m.automaton.start (input.extract f.span.start f.span.stop) t exit ∧
        m.Yields input f.span.start f f.span.stop exit (.record ∅ f.span.start t) := by
  rw [mem_reports, mem_reportsFrom]
  constructor
  · rintro ⟨hle, hlt, n, hn, t, exit, ht, hyields⟩
    have hstop : f.span.stop = f.span.start + n := congrArg Span.stop (of_found? hyields).2
    rw [List.length_drop] at hn
    rw [hstop, List.extract_eq_take_drop, Nat.add_sub_cancel_left]
    exact ⟨Nat.le_add_right .., by omega, hlt, t, exit, ht, hyields⟩
  · rintro ⟨hle, hstop, hlt, t, exit, ht, hyields⟩
    refine ⟨hle.trans hstop, hlt, f.span.stop - f.span.start, ?_, t, exit, ht, ?_⟩
    · rw [List.length_drop]
      omega
    · rwa [Nat.add_sub_cancel' hle]

/-- A match is reported for every pattern that accepts a slice, and for nothing else. -/
theorem exists_mem_reports_iff (hm : m.Covers) :
    (∃ f ∈ m.reports input, f.span = ⟨start, stop⟩ ∧ f.pattern = i) ↔
      start ≤ stop ∧ stop ≤ input.length ∧ i ∈ m.automaton.accepts (input.extract start stop) := by
  rw [Automaton.mem_accepts_iff_halts]
  constructor
  · rintro ⟨f, hf, hspan, rfl⟩
    obtain ⟨hle, hstop, hlt, t, exit, ht, -⟩ := mem_reports_iff.1 hf
    rw [hspan] at hle hstop ht
    exact ⟨hle, hstop, hlt, t, exit, ht⟩
  · rintro ⟨hle, hstop, hlt, t, exit, ht⟩
    obtain ⟨f, rfl, hspan, -, hyields⟩ := exists_yields (List.getElem?_eq_getElem (hlt.trans_le hm.layouts))
      (List.getElem?_eq_getElem (hlt.trans_le hm.constructors)) input start stop exit (.record ∅ start t)
    refine ⟨f, mem_reports_iff.2 ?_, hspan, rfl⟩
    rw [hspan]
    exact ⟨hle, hstop, hlt, t, exit, ht, hyields⟩

/-- A match captures what its slice captures by itself, moved up to the slice. -/
theorem capturedAt_slice (m : Matcher α) (i : Nat) (layout : Layout) {t : List (Nat × Marks)}
    (exit : Marks) {w : List Nat} (hw : w = input.extract start stop) (ht : t.length = w.length) (hle : start ≤ stop)
    (hstop : stop ≤ input.length) (hmax : stop ≤ maxOffset) :
    m.capturedAt input start ⟨stop, ∅, exit, .record ∅ start t⟩ i layout =
      (m.capturedAt w 0 ⟨w.length, ∅, exit, .record ∅ 0 t⟩ i layout).shift start := by
  have hlength : w.length + start = stop := by
    rw [hw, List.length_take, List.length_drop]
    omega
  have hselect := @Recording.select_shift t layout exit start (by omega)
  rw [ht, hlength] at hselect
  unfold capturedAt
  simp only [← hw, hselect, List.drop_zero, Nat.sub_zero, List.take_length]
  cases (m.programs[i]?).getD none with
  | none => rfl
  | some program =>
    have hreplay := program.captures?_shift 0 start w
    rw [Nat.zero_add] at hreplay
    rw [Option.bind_some, Option.bind_some, hreplay]
    cases program.captures? 0 w <;> rfl

/-- Every match has the groups that its pattern captures on the slice alone. -/
theorem exists_exactAll_slice (hmax : input.length ≤ maxOffset) (hf : f ∈ m.reports input) :
    ∃ construct, m.constructors[f.pattern]? = some construct ∧
      ∃ g ∈ m.capturing.exactAll (input.extract f.span.start f.span.stop),
        g.pattern = f.pattern ∧ f.value = construct input (g.value.shift f.span.start) := by
  obtain ⟨hle, hstop, hlt, t, exit, ht, hyields⟩ := mem_reports_iff.1 hf
  unfold Yields found? at hyields
  split at hyields
  · rename_i layout construct hl hc
    have hslice := m.capturedAt_slice f.pattern layout exit rfl
      (Automaton.length_of_halts ht) hle hstop (hstop.trans hmax)
    generalize input.extract f.span.start f.span.stop = w at ht hslice
    have hconstruct : m.capturing.constructors[f.pattern]? = some fun _ captured => captured := by
      rw [capturing, List.getElem?_map, hc]
      rfl
    obtain ⟨g, hpattern, hspan, hvalue, hg⟩ := exists_yields (m := m.capturing) hl hconstruct w 0 w.length exit
      (.record ∅ 0 t)
    refine ⟨construct, hc, g, mem_exactAll.2 ⟨mem_reportsFrom.2 ⟨?_, w.length, le_rfl, t, exit, ?_, ?_⟩, ?_⟩,
      hpattern, ?_⟩
    · rwa [hpattern]
    · rw [hpattern, List.drop_zero, List.take_length]
      exact ht
    · rwa [Nat.zero_add]
    · rw [hspan]
    · rw [← Option.some.inj hyields, hvalue]
      exact congrArg (construct input) hslice
  · exact nomatch hyields

/-- A scan that nothing interrupts reports in order, and once each, the slices that a pattern accepts.
What a match captures does not depend on the text around it. -/
theorem scan_slices (hm : m.Covers) (hmax : input.length ≤ maxOffset) :
    (∀ {τ : Type} (visit : τ → Found α → τ × Action), (∀ t f, (visit t f).2 = .continueAll) →
      ∀ t, m.scan input visit t = (m.collect input).foldl (fun t f => (visit t f).1) t) ∧
    (m.collect input).Pairwise (·.rank < ·.rank) ∧
    (∀ start stop i, (∃ f ∈ m.collect input, f.span = ⟨start, stop⟩ ∧ f.pattern = i) ↔
      start ≤ stop ∧ stop ≤ input.length ∧ i ∈ m.automaton.accepts (input.extract start stop)) ∧
    ∀ f ∈ m.collect input, ∃ construct, m.constructors[f.pattern]? = some construct ∧
      ∃ g ∈ m.capturing.exactAll (input.extract f.span.start f.span.stop),
        g.pattern = f.pattern ∧ f.value = construct input (g.value.shift f.span.start) := by
  rw [collect_eq_reports]
  exact ⟨fun visit hv t => scan_continueAll hv m input t, m.reports_ascending input,
    fun start stop i => exists_mem_reports_iff hm, fun f hf => exists_exactAll_slice hmax hf⟩

/-- Letters, each in a group. -/
def groupedLetters : Pattern := .loop (.group [0] (.symbols [⟨97, 98⟩])) 1 .plain

/-- The two letters behind another symbol are found there, with the groups that they have alone. -/
theorem scan_slices_groupedLetters : ∃ m, MatcherBuilder.new.buildAll .bytes [groupedLetters] = .ok m ∧
    ∃ f ∈ m.collect [98, 97, 97], f.span = ⟨1, 3⟩ ∧ f.pattern = 0 ∧
      ∃ g ∈ m.capturing.exactAll [97, 97], f.value = g.value.shift 1 := by
  have h := MatcherBuilder.buildAll_of_nodup (σ := .bytes) (p := groupedLetters) (by decide +kernel) (by decide)
  have hcovers : ∀ {m : Matcher Captured}, MatcherBuilder.new.buildAll .bytes [groupedLetters] = .ok m →
      m.Covers := by
    intro m hm
    obtain ⟨e, he, rfl⟩ := MatcherBuilder.exists_entry hm
    have hvalid := MatcherBuilder.valid_entry he
    exact covers_of_build (MatcherBuilder.build_single (b := ⟨[e], 0, false⟩) hvalid rfl)
  obtain ⟨-, -, htriples, hgroups⟩ := scan_slices (hcovers h)
    (show [98, 97, 97].length ≤ maxOffset by decide)
  obtain ⟨f, hf, hspan, hpattern⟩ := (htriples 1 3 0).2 ⟨by decide, by decide,
    SortedSet.contains_iff.1 (by decide +kernel)⟩
  refine ⟨_, h, f, hf, hspan, hpattern, ?_⟩
  obtain ⟨construct, hconstruct, g, hg, -, hvalue⟩ := hgroups f hf
  rw [hpattern] at hconstruct
  obtain rfl := Option.some.inj hconstruct
  rw [hspan] at hg hvalue
  exact ⟨g, hg, hvalue⟩

end Matcher

end Polymatch
