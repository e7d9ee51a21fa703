import Polymatch.Proofs.Matcher.Accepted
import Polymatch.Proofs.Matcher.Longest
import Polymatch.Proofs.Text.Units

/-! # Replacing matches

A text is cut into units, and what lies between two matches is read back on its own. So
replacing keeps what lies outside of the matches as long as no match begins or ends inside
of a character, and replacing every match by itself changes nothing in just these cases.
-/

namespace Polymatch

namespace Matcher

variable {m : Matcher Captured} {e : Entry Captured} {input : List Nat} {offset p : Nat} {span : Span}
  {spans : List Span} {f : Found Captured} {founds : List (Found Captured)}

/-- Matches from an offset on, each of them behind the one before. -/
def Spaced (limit : Nat) : Nat → List (Found Captured) → Prop
  | offset, [] => offset ≤ limit
  | offset, f :: founds => offset ≤ f.span.start ∧ f.span.start ≤ f.span.stop ∧ Spaced limit f.span.stop founds

theorem Spaced.le (h : Spaced input.length offset founds) : offset ≤ input.length := by
  induction founds generalizing offset with
  | nil => exact h
  | cons f founds ih =>
    obtain ⟨hstart, hstop, hrest⟩ := h
    exact Nat.le_trans hstart (Nat.le_trans hstop (ih hrest))

theorem Spaced.le_of_mem {limit : Nat} (h : Spaced limit offset founds) (hf : f ∈ founds) :
    offset ≤ f.span.start ∧ f.span.start ≤ f.span.stop := by
  induction founds generalizing offset with
  | nil => exact nomatch hf
  | cons g founds ih =>
    obtain ⟨hstart, hstop, hrest⟩ := h
    rcases List.mem_cons.1 hf with rfl | hf
    · exact ⟨hstart, hstop⟩
    · exact ⟨Nat.le_trans hstart (Nat.le_trans hstop (ih hrest hf).1), (ih hrest hf).2⟩

theorem covers_alone (he : e.Valid) : e.alone.Covers := by
  have hone : e.alone.automaton.patterns = 1 := he.patterns
  exact ⟨hone.le, hone.le⟩

/-- A single pattern has one match on a token. -/
theorem matchesOn_alone (he : e.Valid) (h : e.alone.automaton.Token input p span) :
    ∃ f, e.alone.matchesOn input span = [f] := by
  have hm := covers_alone he
  have hs := Nat.le_trans h.start_le_stop h.stop_le
  have hne : e.alone.matchesOn input span ≠ [] :=
    matchesOn_ne_nil hs ((isMatch_extract_iff hm hs).1 ⟨h.start_le_stop, h.stop_le, h.accepted⟩)
  have hzero : ∀ f ∈ e.alone.matchesOn input span, f.pattern = 0 := fun f hf =>
    pattern_of_mem_alone he (mem_reports.1 (mem_matchesOn.1 hf).1).2
  have hasc : (e.alone.matchesOn input span).Pairwise (·.pattern < ·.pattern) := by
    rw [← List.pairwise_map, map_pattern_matchesOn hm h.start_le_stop h.stop_le]
    exact SortedSet.ascending _
  -- two matches would have two patterns
  match hl : e.alone.matchesOn input span with
  | [] => exact absurd hl hne
  | [f] => exact ⟨f, rfl⟩
  | f :: g :: _ =>
    rw [hl] at hzero hasc
    have hlt : f.pattern < g.pattern := (List.pairwise_cons.1 hasc).1 g List.mem_cons_self
    have hg := hzero g (List.mem_cons_of_mem _ List.mem_cons_self)
    omega

theorem spaced_tokens (he : e.Valid) (h : e.alone.automaton.Tokens input p spans) (hp : offset ≤ p)
    (hle : offset ≤ input.length) : Spaced input.length offset (spans.flatMap (e.alone.matchesOn input)) := by
  induction h generalizing offset with
  | done => exact hle
  | @token p span spans h _ ih =>
    obtain ⟨f, hf⟩ := matchesOn_alone he h
    have hspan : f.span = span := (mem_matchesOn.1 (hf ▸ List.mem_singleton_self f)).2
    rw [List.flatMap_cons, hf, List.singleton_append, Spaced, hspan]
    exact ⟨Nat.le_trans hp h.le_start, h.start_le_stop, ih (Nat.le_max_left ..) h.stop_le⟩

theorem spaced_findLongest (he : e.Valid) (input : List Nat) :
    Spaced input.length 0 (e.alone.findLongest input) := by
  obtain ⟨spans, hspans⟩ := e.alone.automaton.exists_tokens input 0
  rw [findLongest_eq (covers_alone he) hspans]
  exact spaced_tokens he hspans (Nat.le_refl 0) (Nat.zero_le _)

/-- The groups of a match are those of its own span. -/
theorem span_capturedAt {start : Nat} {st : Automaton.Stop} (hle : start ≤ st.stop) (hstop : st.stop ≤ input.length)
    (i : Nat) (layout : Layout) : (m.capturedAt input start st i layout).span = ⟨start, st.stop⟩ := by
  rw [capturedAt]
  cases hreplay : ((m.programs[i]?).getD none).bind fun program =>
      program.captures? start ((input.drop start).take (st.stop - start)) with
  | none => rfl
  | some c =>
    obtain ⟨program, -, hcaptures⟩ := Option.bind_eq_some_iff.1 hreplay
    obtain ⟨groups, -, rfl⟩ := Option.map_eq_some_iff.1 hcaptures
    have hlength : start + ((input.drop start).take (st.stop - start)).length = st.stop := by
      rw [List.length_take, List.length_drop]
      omega
    rw [Option.getD_some, hlength]

theorem span_value (hv : e.Valid) (he : e.construct = fun _ captured => captured) (hf : f ∈ e.alone.reports input) :
    f.value.span = f.span := by
  obtain ⟨hs, hmem⟩ := mem_reports.1 hf
  obtain ⟨st, hst, hfound⟩ := List.mem_flatMap.1 hmem
  have hle := Automaton.le_of_mem_stopsFrom hst
  rw [List.length_drop] at hle
  have hlayout : e.alone.layouts[0]? = some e.layout := rfl
  have hconstruct : e.alone.constructors[0]? = some fun _ captured => captured := congrArg some he
  have hyields := (mem_foundAt.1 hfound).2
  rw [pattern_of_mem_alone hv hmem, found?_eq hlayout hconstruct] at hyields
  rw [← Option.some.inj hyields]
  exact span_capturedAt hle.1 (by omega) _ _

end Matcher

namespace Regex

open Matcher (Spaced)
open Text (Splits)

variable {r : Regex} {name text : String} {p : Pattern} {input : List Nat} {offset n : Nat} {f : Found Captured}
  {founds : List (Found Captured)} {t : Template} {s s' : String}

/-- What replacing relies on: the matches follow each other, and each captures its own span. -/
theorem spaced_of_ofPattern (h : ofPattern name p = .ok r) (input : List Nat) :
    Spaced input.length 0 (r.matcher.findLongest input) ∧
      ∀ f ∈ r.matcher.findLongest input, f.value.span = f.span := by
  rw [ofPattern_eq] at h
  cases hbuild : MatcherBuilder.new.buildAll .units [p] with
  | error err => exact nomatch hbuild ▸ h
  | ok m =>
    rw [hbuild] at h
    obtain rfl := Except.ok.inj h
    obtain ⟨e, he, rfl⟩ := MatcherBuilder.exists_entry hbuild
    have hvalid := MatcherBuilder.valid_entry he
    have hconstruct := (MatcherBuilder.entry_eq_ok he).2.2.2.2.1
    obtain ⟨spans, hspans⟩ := e.alone.automaton.exists_tokens input 0
    have hreports : ∀ f ∈ e.alone.findLongest input, f ∈ e.alone.reports input := by
      intro f hf
      rw [Matcher.findLongest_eq (Matcher.covers_alone hvalid) hspans] at hf
      obtain ⟨span, -, hf⟩ := List.mem_flatMap.1 hf
      exact (Matcher.mem_matchesOn.1 hf).1
    exact ⟨Matcher.spaced_findLongest hvalid input, fun f hf => Matcher.span_value hvalid hconstruct (hreports f hf)⟩

/-- The template that puts a match in its own place. -/
def whole : Template := ⟨[.group 0]⟩

example : Template.parse "[0]" = .ok whole := by decide +kernel

theorem expand_whole (input : List Nat) (c : Captured) :
    whole.expand input c = Text.ofUnits (Template.slice input c.span) := String.empty_append

theorem slice_eq {span : Span} (h : span.start ≤ span.stop) (hstop : span.stop ≤ input.length) :
    Template.slice input span = (input.drop span.start).take (span.stop - span.start) :=
  if_pos (by rw [decide_eq_true h, decide_eq_true hstop]; rfl)

/-- The second text is the first one from an offset on, where every match is replaced by what the template makes of it.
The texts in between have exactly the units between the matches. -/
inductive Replaced (t : Template) (input : List Nat) : Nat → List (Found Captured) → String → String → Prop
  | done {offset : Nat} {rest : String} : Text.units rest = input.drop offset → Replaced t input offset [] rest rest
  | found {offset : Nat} {f : Found Captured} {founds : List (Found Captured)} {before taken rest rest' : String} :
      Text.units before = Template.slice input ⟨offset, f.span.start⟩ → Text.units taken = Template.slice input f.span →
      Replaced t input f.span.stop founds rest rest' →
      Replaced t input offset (f :: founds) (before ++ taken ++ rest) (before ++ t.expand input f.value ++ rest')

/-- No match begins or ends inside of a character. -/
def Aligned (text : String) (founds : List (Found Captured)) : Prop :=
  ∀ f ∈ founds, Splits text f.span.start ∧ Splits text f.span.stop

theorem replaced_replaceFrom (h : Spaced input.length offset founds) (hinput : input.drop offset = Text.units s)
    (hsplits : ∀ f ∈ founds, Splits s (f.span.start - offset) ∧ Splits s (f.span.stop - offset)) :
    Replaced t input offset founds s (replaceFrom t input offset founds) := by
  induction founds generalizing offset s with
  | nil =>
    rw [replaceFrom, hinput, Text.ofUnits_units]
    exact .done hinput.symm
  | cons f founds ih =>
    obtain ⟨hstart, hstop, hrest⟩ := h
    have hle := hrest.le
    obtain ⟨⟨before, behind, rfl, hbefore⟩, hsplit⟩ := hsplits f List.mem_cons_self
    obtain ⟨taken, rest, rfl, htaken⟩ := hsplit.behind (by omega)
    -- the units from the offset on are those of the three texts
    rw [Text.units_append, Text.units_append] at hinput
    have hdrop : input.drop f.span.start = Text.units taken ++ Text.units rest := by
      rw [← Nat.add_sub_of_le hstart, ← List.drop_drop, hinput, ← hbefore, List.drop_left]
    have hrestUnits : input.drop f.span.stop = Text.units rest := by
      have hlength : f.span.stop = f.span.start + (Text.units taken).length := by omega
      rw [hlength, ← List.drop_drop, hdrop, List.drop_left]
    have hfront : (input.drop offset).take (f.span.start - offset) = Text.units before := by
      rw [hinput, ← hbefore, List.take_left]
    have hbeforeSlice : Text.units before = Template.slice input ⟨offset, f.span.start⟩ := by
      rw [slice_eq hstart (Nat.le_trans hstop hle), hfront]
    have htakenSlice : Text.units taken = Template.slice input f.span := by
      have hlength : f.span.stop - f.span.start = (Text.units taken).length := by omega
      rw [slice_eq hstop hle, hdrop, hlength, List.take_left]
    rw [replaceFrom, hfront, Text.ofUnits_units, ← String.append_assoc]
    refine .found hbeforeSlice htakenSlice (ih hrest hrestUnits fun g hg => ?_)
    have hg' := hrest.le_of_mem hg
    obtain ⟨hgstart, hgstop⟩ := hsplits g (List.mem_cons_of_mem _ hg)
    have hlength : (Text.units (before ++ taken)).length = f.span.stop - offset := by
      rw [Text.units_append, List.length_append]
      omega
    have hback : ∀ n, f.span.stop ≤ n → Splits (before ++ (taken ++ rest)) (n - offset) → Splits rest (n - f.span.stop) := by
      intro n hn hsplit
      rw [← String.append_assoc] at hsplit
      have hsplit := hsplit.behind (by omega)
      rwa [hlength, Nat.sub_sub_sub_cancel_right (by omega)] at hsplit
    exact ⟨hback _ hg'.1 hgstart, hback _ (Nat.le_trans hg'.1 hg'.2) hgstop⟩

/-- Where every expansion is what it replaces, nothing changes. -/
theorem Replaced.eq (h : Replaced whole input offset founds s s') (hspans : ∀ f ∈ founds, f.value.span = f.span) :
    s' = s := by
  induction h with
  | done => rfl
  | found _ htaken _ ih =>
    obtain ⟨hspan, hspans⟩ := List.forall_mem_cons.1 hspans
    rw [expand_whole, hspan, ← htaken, Text.ofUnits_units, ih hspans]

/-- Replacing every match by itself keeps the number of units in front of every offset where a match begins or ends. -/
theorem splits_replaceFrom (h : Spaced input.length offset founds) (hbound : ∀ u ∈ input, u < Text.unitLimit)
    (hspans : ∀ f ∈ founds, f.value.span = f.span) (hf : f ∈ founds) :
    Splits (replaceFrom whole input offset founds) (f.span.start - offset) ∧
      Splits (replaceFrom whole input offset founds) (f.span.stop - offset) := by
  induction founds generalizing offset with
  | nil => exact nomatch hf
  | cons g founds ih =>
    obtain ⟨hstart, hstop, hrest⟩ := h
    have hle := hrest.le
    have hslice : ∀ a b, a ≤ b → b ≤ input.length →
        (Text.units (Text.ofUnits ((input.drop a).take (b - a)))).length = b - a := by
      intro a b hab hb
      rw [Text.length_units_ofUnits fun u hu => hbound u (List.mem_of_mem_drop (List.mem_of_mem_take hu)),
        List.length_take, List.length_drop]
      omega
    have hbefore := hslice offset g.span.start hstart (Nat.le_trans hstop hle)
    have htaken := hslice g.span.start g.span.stop hstop hle
    rw [replaceFrom, expand_whole, hspans g List.mem_cons_self, slice_eq hstop hle]
    generalize Text.ofUnits ((input.drop offset).take (g.span.start - offset)) = before at hbefore ⊢
    generalize Text.ofUnits ((input.drop g.span.start).take (g.span.stop - g.span.start)) = taken at htaken ⊢
    have hfront : (Text.units (before ++ taken)).length = g.span.stop - offset := by
      rw [Text.units_append, List.length_append, hbefore, htaken]
      omega
    rcases List.mem_cons.1 hf with rfl | hf
    · exact ⟨⟨before, _, String.append_assoc, hbefore⟩, before ++ taken, _, rfl, hfront⟩
    · obtain ⟨hfstart, hfstop⟩ := hrest.le_of_mem hf
      obtain ⟨hsplitStart, hsplitStop⟩ := ih hrest (fun f hf => hspans f (List.mem_cons_of_mem _ hf)) hf
      have hsum : ∀ n, g.span.stop ≤ n → (Text.units (before ++ taken)).length + (n - g.span.stop) = n - offset := by
        intro n hn
        omega
      have hbehind := hsplitStart.append (before ++ taken)
      have hbehindStop := hsplitStop.append (before ++ taken)
      rw [hsum _ hfstart] at hbehind
      rw [hsum _ (Nat.le_trans hfstart hfstop)] at hbehindStop
      exact ⟨hbehind, hbehindStop⟩

/-- Replacing every match by itself changes nothing just if no match begins or ends inside of a character, and in
that case replacing keeps all that lies outside of the matches. -/
theorem replaceAll_whole_iff (h : ofPattern name p = .ok r) (text : String) :
    (r.replaceAll text whole = text ↔ Aligned text (r.matcher.findLongest (Text.units text))) ∧
      (Aligned text (r.matcher.findLongest (Text.units text)) → ∀ t : Template,
        Replaced t (Text.units text) 0 (r.matcher.findLongest (Text.units text)) text (r.replaceAll text t)) := by
  obtain ⟨hspaced, hspans⟩ := spaced_of_ofPattern h (Text.units text)
  have hreplaced : Aligned text (r.matcher.findLongest (Text.units text)) → ∀ t : Template,
      Replaced t (Text.units text) 0 (r.matcher.findLongest (Text.units text)) text (r.replaceAll text t) :=
    fun haligned t => replaced_replaceFrom hspaced (List.drop_zero ..) haligned
  refine ⟨⟨fun heq f hf => ?_, fun haligned => (hreplaced haligned whole).eq hspans⟩, hreplaced⟩
  have hsplits := splits_replaceFrom hspaced (fun u => Text.lt_of_mem_units) hspans hf
  rwa [← replaceAll, heq] at hsplits

/-- A match of one unit halves a character, and so does an empty match inside of it. Then a match replaced by itself
changes, and so does a text without a unit in any match. -/
theorem replaceAll_halvedCharacter :
    (∃ r, ofText "." ⟨false⟩ = .ok r ∧ Template.parse "[0]" = .ok whole ∧ r.replaceAll "😀" whole ≠ "😀") ∧
    ∃ r, ofText "x*" ⟨false⟩ = .ok r ∧ (∀ f ∈ r.matcher.findLongest (Text.units "😀"), f.span.start = f.span.stop) ∧
      r.replaceAll "😀" ⟨[]⟩ ≠ "😀" := by
  have hunit : (ofText "." ⟨false⟩).toOption.map (·.replaceAll "😀" whole) = some "\uFFFD\uFFFD" := by
    decide +kernel
  have hempty : (ofText "x*" ⟨false⟩).toOption.map (fun r =>
      ((r.matcher.findLongest (Text.units "😀")).all fun f => f.span.start = f.span.stop, r.replaceAll "😀" ⟨[]⟩)) =
        some (true, "\uFFFD\uFFFD") := by
    decide +kernel
  constructor
  · cases h : ofText "." ⟨false⟩ with
    | error err => simp [h, Except.toOption] at hunit
    | ok r =>
      rw [h] at hunit
      have hreplaced : r.replaceAll "😀" whole = "\uFFFD\uFFFD" := Option.some.inj hunit
      exact ⟨r, rfl, by decide +kernel, by rw [hreplaced]; decide⟩
  · cases h : ofText "x*" ⟨false⟩ with
    | error err => simp [h, Except.toOption] at hempty
    | ok r =>
      rw [h] at hempty
      obtain ⟨hall, hreplaced⟩ := Prod.mk.inj (Option.some.inj hempty)
      exact ⟨r, rfl, by simpa using hall, by rw [hreplaced]; decide⟩

/-- A letter between two characters of two units each. -/
theorem replaceAll_whole_iff_letterBetween : ∃ r, ofPattern "b" (.symbols [⟨98, 99⟩]) = .ok r ∧
    r.replaceAll "😀b😀" whole = "😀b😀" ∧ Replaced ⟨[.literal "-"]⟩ (Text.units "😀b😀") 0
      (r.matcher.findLongest (Text.units "😀b😀")) "😀b😀" (r.replaceAll "😀b😀" ⟨[.literal "-"]⟩) := by
  have hfound : (ofPattern "b" (.symbols [⟨98, 99⟩])).toOption.map (fun r =>
      (r.matcher.findLongest (Text.units "😀b😀")).map (·.span)) = some [⟨2, 3⟩] := by
    decide +kernel
  cases h : ofPattern "b" (.symbols [⟨98, 99⟩]) with
  | error err => simp [h, Except.toOption] at hfound
  | ok r =>
    rw [h] at hfound
    have haligned : Aligned "😀b😀" (r.matcher.findLongest (Text.units "😀b😀")) := fun f hf => by
      have hspan : f.span ∈ [(⟨2, 3⟩ : Span)] := Option.some.inj hfound ▸ List.mem_map_of_mem hf
      rw [List.mem_singleton.1 hspan]
      exact ⟨⟨"😀", "b😀", by decide, by decide +kernel⟩, "😀b", "😀", by decide, by decide +kernel⟩
    obtain ⟨hiff, hreplaced⟩ := replaceAll_whole_iff h "😀b😀"
    exact ⟨r, rfl, hiff.2 haligned, hreplaced haligned _⟩

end Regex

end Polymatch
