import Polymatch.Matcher.Build
import Polymatch.Proofs.Matcher.Reports
import Polymatch.Proofs.Merge.Patterns
import Polymatch.Proofs.Pattern.Recognition

/-! # Matchers of several patterns

Every step of building a matcher embeds the automata of the patterns so far and of
the next one, with ids and slots of their own. In the end the matcher contains every
pattern, and reports for it what a matcher of this pattern alone reports.
-/

namespace Polymatch

theorem Automaton.Embeds.haltsWithin {a m : Automaton} {ids slots i pos : Nat} {R : Nat → Nat → Prop}
    {P P' : Nat → Marks → Recording → Prop} {rest : List Nat} (h : Embeds a m ids R)
    (hc : Carries a m slots R) (hi : i < a.patterns)
    (hP : ∀ stop small large exit exit', SameTrace slots a.captures small large →
      SameMarks slots a.captures exit exit' →
        (P stop exit' (.record ∅ pos large) ↔ P' stop exit (.record ∅ pos small))) :
    m.HaltsWithin (i + ids) m.start pos ∅ rest P ↔ a.HaltsWithin i a.start pos ∅ rest P' := by
  refine exists_congr fun n => and_congr_right fun _ => ?_
  have htrace := h.trace? hc h.start hi (rest.take n)
  simp only [Halts]
  generalize m.trace? (i + ids) m.start (rest.take n) = large? at htrace
  generalize a.trace? i a.start (rest.take n) = small? at htrace
  cases htrace with
  | none =>
    constructor
    · rintro ⟨_, _, ⟨_, ⟨⟩, -⟩, -⟩
    · rintro ⟨_, _, ⟨_, ⟨⟩, -⟩, -⟩
  | @some large small hrel =>
    obtain ⟨large, k⟩ := large
    obtain ⟨small, s⟩ := small
    obtain ⟨hsame, hR⟩ := hrel
    have haccept := h.accept hR i hi
    have hiff := hP (pos + n) small large _ _ hsame (hc.exit hR)
    constructor
    · rintro ⟨_, _, ⟨_, ⟨⟩, ha, rfl⟩, hp⟩
      exact ⟨_, _, ⟨_, rfl, haccept.1 ha, rfl⟩, hiff.1 hp⟩
    · rintro ⟨_, _, ⟨_, ⟨⟩, ha, rfl⟩, hp⟩
      exact ⟨_, _, ⟨_, rfl, haccept.2 ha, rfl⟩, hiff.2 hp⟩

variable {α : Type}

/-- The same match under another id. -/
def Found.under (f : Found α) (i : Nat) : Found α := { f with pattern := i }

namespace Entry

/-- The matcher of a single entry. -/
def alone (e : Entry α) : Matcher α := ⟨e.automaton, [e.layout], [e.construct], [e.program?]⟩

structure Valid (e : Entry α) : Prop where
  wellFormed : e.automaton.WellFormed
  patterns : e.automaton.patterns = 1
  base : e.layout.base = 0
  slots_lt : ∀ slot ∈ e.layout.slots, slot < e.automaton.captures

end Entry

theorem Layout.lt_of_mem_slots {l : Layout} (hl : l.base = 0) {slot : Nat} (h : slot ∈ l.slots) :
    slot < l.size := by
  obtain ⟨label, hlabel, rfl⟩ := List.mem_map.1 h
  rw [slotOf, hl, Nat.zero_add, size]
  refine Nat.lt_of_le_of_ne List.countP_le_length fun heq => ?_
  have := List.countP_eq_length.1 heq label hlabel
  exact List.lt_irrefl label (of_decide_eq_true this)

namespace MatcherBuilder

variable {σ : Alphabet} {p : Pattern} {construct : Constructor α} {e : Entry α}

/-- An entry holds the compiled automaton of its pattern. -/
theorem entry_eq_ok (h : entry σ p construct = .ok e) :
    p.overlap? σ = none ∧ e.layout = ⟨p.labels, 0⟩ ∧ e.automaton = p.automaton σ e.layout ∧
      Pattern.Compiled σ e.layout p e.automaton ∧ e.construct = construct ∧
      e.program? = if e.automaton.ambiguous && !e.layout.isEmpty then some (.ofPattern p e.layout) else none := by
  obtain ⟨layout, hl, h⟩ := bind_eq_ok.1 h
  obtain rfl := Except.ok.inj h
  obtain ⟨ho, -, hlayout⟩ := Pattern.checkedLayout_eq_ok_iff.1 hl
  exact ⟨ho, hlayout, rfl, Pattern.compiled_automaton ho layout, rfl, rfl⟩

theorem compile_of_entry (h : entry σ p construct = .ok e) : p.compile σ = .ok e.automaton := by
  obtain ⟨layout, hl, h⟩ := bind_eq_ok.1 h
  obtain rfl := Except.ok.inj h
  rw [Pattern.compile, hl]
  rfl

theorem nodup_of_entry (h : entry σ p construct = .ok e) : p.labels.Nodup :=
  (Pattern.compile_eq_ok_iff.1 (compile_of_entry h)).2.1

theorem valid_entry (h : entry σ p construct = .ok e) : e.Valid := by
  obtain ⟨-, hl, -, hc, -, -⟩ := entry_eq_ok h
  have hbase : e.layout.base = 0 := by rw [hl]
  exact ⟨hc.wellFormed, hc.patterns, hbase,
    fun slot hslot => Nat.lt_of_lt_of_le (Layout.lt_of_mem_slots hbase hslot) hc.captures⟩

end MatcherBuilder

namespace Matcher

/-- A matcher contains an entry, under the id `i` and with slots moved up by `slots`. -/
structure Contains (m : Matcher α) (e : Entry α) (i slots : Nat) (R : Nat → Nat → Prop) : Prop where
  embeds : e.automaton.Embeds m.automaton i R
  carries : e.automaton.Carries m.automaton slots R
  layout : m.layouts[i]? = some (e.layout.withBase slots)
  construct : m.constructors[i]? = some e.construct
  program : m.programs[i]? = some e.program?

/-- A matcher contains some entries, each under its place in the list, and nothing else. -/
structure Unites (m : Matcher α) (es : List (Entry α)) : Prop where
  wellFormed : m.automaton.WellFormed
  patterns : m.automaton.patterns = es.length
  layouts : m.layouts.length = es.length
  constructors : m.constructors.length = es.length
  programs : m.programs.length = es.length
  contains : ∀ i e, es[i]? = some e → ∃ slots R, m.Contains e i slots R

variable {m m' : Matcher α} {es : List (Entry α)} {e : Entry α} {i slots : Nat} {R : Nat → Nat → Prop}

theorem contains_alone (h : e.Valid) : e.alone.Contains e 0 0 Eq where
  embeds := Automaton.embeds_refl _
  carries := Automaton.carries_refl _
  layout := by
    have hbase : e.layout.withBase 0 = e.layout := by rw [Layout.withBase, ← h.base]
    rw [hbase]
    rfl
  construct := rfl
  program := rfl

theorem unites_alone (h : e.Valid) : e.alone.Unites [e] where
  wellFormed := h.wellFormed
  patterns := h.patterns
  layouts := rfl
  constructors := rfl
  programs := rfl
  contains := by
    rintro (_ | i) e' he
    · obtain rfl := Option.some.inj he
      exact ⟨0, Eq, contains_alone h⟩
    · exact nomatch he

theorem Unites.extend {b : MatcherBuilder α} (hm : m.Unites es) (he : e.Valid)
    (h : b.extend m e = .ok m') : m'.Unites (es ++ [e]) := by
  obtain ⟨merged, hmerged, hextended⟩ := bind_eq_ok.1 h
  obtain rfl := Except.ok.inj hextended
  obtain ⟨pairs, hp⟩ := Automaton.exists_mergedPatterns hm.wellFormed he.wellFormed hmerged
  have hle := hp.patterns_le
  have hge := hp.le_patterns
  simp only [Automaton.patternProduct, Option.getD_some, he.patterns] at hle hge
  replace hge : merged.patterns ≤ m.automaton.patterns + 1 := by omega
  have hleft := hp.embeds_left (Nat.le_refl _)
  have hcarry := hp.carries_left (Nat.le_refl _)
  refine ⟨hp.wellFormed, ?_, ?_, ?_, ?_, ?_⟩
  · rw [List.length_append, List.length_singleton, ← hm.patterns]
    exact Nat.le_antisymm hge hle
  · rw [List.length_append, List.length_append, hm.layouts, List.length_singleton, List.length_singleton]
  · rw [List.length_append, List.length_append, hm.constructors, List.length_singleton,
      List.length_singleton]
  · rw [List.length_append, List.length_append, hm.programs, List.length_singleton, List.length_singleton]
  · intro i e' hi
    rcases Nat.lt_or_ge i es.length with hlt | hge
    · rw [List.getElem?_append_left hlt] at hi
      obtain ⟨slots, R, hc⟩ := hm.contains i e' hi
      refine ⟨slots, _, ⟨hc.embeds.trans hleft, hc.carries.trans hcarry hc.embeds, ?_, ?_, ?_⟩⟩
      · rw [List.getElem?_append_left (hm.layouts ▸ hlt), hc.layout]
      · rw [List.getElem?_append_left (hm.constructors ▸ hlt), hc.construct]
      · rw [List.getElem?_append_left (hm.programs ▸ hlt), hc.program]
    · obtain ⟨hi0, rfl⟩ : i - es.length = 0 ∧ e = e' := by
        rw [List.getElem?_append_right hge, List.getElem?_singleton] at hi
        split at hi
        · exact ⟨‹_›, Option.some.inj hi⟩
        · cases hi
      obtain rfl : es.length = i := by omega
      have hright := hp.embeds_right hm.wellFormed (Nat.le_refl _)
      have hcarry := hp.carries_right hm.wellFormed (Nat.le_refl _)
      simp only [Automaton.patternProduct, Option.getD_some, hm.patterns] at hright hcarry
      refine ⟨m.automaton.captures, _, ⟨hright, hcarry, ?_, ?_, ?_⟩⟩
      · rw [← hm.layouts, List.getElem?_concat_length]
      · rw [← hm.constructors, List.getElem?_concat_length]
      · rw [← hm.programs, List.getElem?_concat_length]

theorem Unites.foldlM_extend {b : MatcherBuilder α} {rest : List (Entry α)} (hm : m.Unites es)
    (hv : ∀ e ∈ rest, e.Valid) (h : rest.foldlM b.extend m = .ok m') : m'.Unites (es ++ rest) := by
  induction rest generalizing m es with
  | nil =>
    obtain rfl := Except.ok.inj h
    rwa [List.append_nil]
  | cons e rest ih =>
    rw [List.forall_mem_cons] at hv
    obtain ⟨next, hextend, hrest⟩ := bind_eq_ok.1 h
    rw [List.append_cons]
    exact ih (hm.extend hv.1 hextend) hv.2 hrest

/-- A matcher that was built contains the entries of its builder. -/
theorem unites_build {b : MatcherBuilder α} (hv : ∀ e ∈ b.entries, e.Valid) (h : b.build = .ok m) :
    m.Unites b.entries := by
  rw [MatcherBuilder.build] at h
  split at h
  · exact nomatch h
  · rename_i first rest hentries
    rw [hentries, List.forall_mem_cons] at hv
    rw [hentries]
    obtain ⟨last, hrest, h⟩ := bind_eq_ok.1 h
    obtain ⟨checked, hchecked, h⟩ := bind_eq_ok.1 h
    obtain rfl := Except.ok.inj h
    simp only [Matcher.new] at hchecked
    split at hchecked
    · exact nomatch hchecked
    · obtain rfl := Except.ok.inj hchecked
      exact (unites_alone hv.1).foldlM_extend hv.2 hrest

/-- A contained entry captures what it captures alone. -/
theorem Contains.capturedAt_eq (h : m.Contains e i slots R) (he : e.Valid) {input : List Nat}
    {start stop : Nat} {small large : List (Nat × Marks)} {exit exit' : Marks}
    (ht : Automaton.SameTrace slots e.automaton.captures small large)
    (hexit : Automaton.SameMarks slots e.automaton.captures exit exit') :
    m.capturedAt input start ⟨stop, ∅, exit', .record ∅ start large⟩ i (e.layout.withBase slots) =
      e.alone.capturedAt input start ⟨stop, ∅, exit, .record ∅ start small⟩ 0 e.layout := by
  have hprogram : e.alone.programs[0]? = some e.program? := rfl
  rw [capturedAt, capturedAt, h.program, hprogram,
    Recording.select_withBase he.base he.slots_lt ht hexit]

/-- A contained entry is reported as it is alone. -/
theorem Contains.mem_reportsFrom (h : m.Contains e i slots R) (he : e.Valid) {input : List Nat}
    {start : Nat} {span : Span} {value : α} :
    ⟨i, span, value⟩ ∈ m.reportsFrom input start ↔ ⟨0, span, value⟩ ∈ e.alone.reportsFrom input start := by
  have hpos : 0 < e.automaton.patterns := by rw [he.patterns]; exact Nat.zero_lt_one
  have hlt : i < m.automaton.patterns := by
    have := h.embeds.patterns_le
    omega
  have hyields : ∀ stop small large exit exit',
      Automaton.SameTrace slots e.automaton.captures small large →
      Automaton.SameMarks slots e.automaton.captures exit exit' →
        (m.Yields input start ⟨i, span, value⟩ stop exit' (.record ∅ start large) ↔
          e.alone.Yields input start ⟨0, span, value⟩ stop exit (.record ∅ start small)) := by
    intro stop small large exit exit' ht hexit
    have hl : e.alone.layouts[0]? = some e.layout := rfl
    have hc : e.alone.constructors[0]? = some e.construct := rfl
    simp only [Yields, found?_eq h.layout h.construct, found?_eq hl hc, h.capturedAt_eq he ht hexit,
      Option.some.injEq, Found.mk.injEq, true_and]
  rw [Matcher.mem_reportsFrom, Matcher.mem_reportsFrom]
  refine and_congr (iff_of_true hlt hpos) ?_
  have hhalts := @h.embeds.haltsWithin _ _ _ _ _ _ _ _ _ (input.drop start) h.carries hpos hyields
  rwa [Nat.zero_add] at hhalts

/-- A matcher of some entries reports what the matchers of the single entries report. -/
theorem Unites.mem_reportsFrom (hm : m.Unites es) (hv : ∀ e ∈ es, e.Valid) {input : List Nat}
    {start : Nat} {f : Found α} : f ∈ m.reportsFrom input start ↔
      ∃ e, es[f.pattern]? = some e ∧ f.under 0 ∈ e.alone.reportsFrom input start := by
  constructor
  · intro h
    have hlt := (Matcher.mem_reportsFrom.1 h).1
    rw [hm.patterns] at hlt
    have he := List.getElem?_eq_getElem hlt
    obtain ⟨slots, R, hc⟩ := hm.contains _ _ he
    exact ⟨_, he, (hc.mem_reportsFrom (hv _ (List.getElem_mem hlt))).1 h⟩
  · rintro ⟨e, he, h⟩
    obtain ⟨slots, R, hc⟩ := hm.contains _ e he
    exact (hc.mem_reportsFrom (hv e (List.mem_of_getElem? he))).2 h

theorem pattern_of_mem_alone (he : e.Valid) {input : List Nat} {start : Nat} {f : Found α}
    (h : f ∈ e.alone.reportsFrom input start) : f.pattern = 0 := by
  have hlt := (Matcher.mem_reportsFrom.1 h).1
  have hpatterns : e.alone.automaton.patterns = 1 := he.patterns
  omega

end Matcher

end Polymatch
