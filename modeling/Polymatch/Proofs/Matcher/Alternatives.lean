import Polymatch.Proofs.Matcher.Separation
import Polymatch.Proofs.Pattern.Layouts
import Polymatch.Proofs.Pattern.Recognition
import Polymatch.Proofs.Replay.Branches

/-! # Groups of alternatives

A match of some branches should have the groups of a branch that matches the input by
itself. The marks of an automaton that is not ambiguous are those of one such branch.
A replay instead decides for the first branch that stands for the input if its loops
are not exclusive, and the automaton of that branch may still reject the input.
-/

namespace Polymatch

namespace Pattern

variable {σ : Alphabet} {bs : List Pattern} {b b' p : Pattern} {layout : Layout} {w : List Nat} {label : Label}

/-- A label is declared in one branch only. -/
theorem eq_of_mem_labels (hl : (allLabels bs).Nodup) (hb : b ∈ bs) (hb' : b' ∈ bs) (h : label ∈ b.labels)
    (h' : label ∈ b'.labels) : b = b' := by
  induction bs with
  | nil => exact nomatch hb
  | cons c rest ih =>
    obtain ⟨-, hrest, hdisjoint⟩ := List.nodup_append'.1 hl
    rcases List.mem_cons.1 hb with rfl | htail
    · rcases List.mem_cons.1 hb' with rfl | htail'
      · rfl
      · exact (hdisjoint h ((labels_sublist htail').mem h')).elim
    · rcases List.mem_cons.1 hb' with rfl | htail'
      · exact (hdisjoint h' ((labels_sublist htail).mem h)).elim
      · exact ih hrest htail htail'

theorem overlap?_of_mem (ho : overlapFromLeft? σ bs = none) (h : b ∈ bs) : b.overlap? σ = none := by
  induction bs with
  | nil => exact nomatch h
  | cons c rest ih =>
    rw [overlapFromLeft?, Option.orElse_eq_none] at ho
    rcases List.mem_cons.1 h with rfl | h
    · exact ho.1
    · exact ih ho.2 h

/-- The pattern's own automaton accepts the whole of an input. -/
def Recognizes (σ : Alphabet) (p : Pattern) (w : List Nat) : Prop :=
  ∃ a, p.compile σ = .ok a ∧ a.isMatch w = true

/-- A pattern by itself recognizes what it reads under any layout. -/
theorem recognizes_iff (ho : p.overlap? σ = none) (hl : p.labels.Nodup) (layout : Layout) :
    p.Recognizes σ w ↔ w ∈ (p.meaning σ layout).reads := by
  have hcompile := compile_of_nodup ho hl
  have hmatch := (compiled_automaton ho ⟨p.labels, 0⟩).isMatch_iff w
  rw [← (mirrors_meaning σ layout ⟨p.labels, 0⟩ p).reads] at hmatch
  rw [← hmatch]
  constructor
  · rintro ⟨a, ha, hw⟩
    rwa [Except.ok.inj (hcompile.symm.trans ha)]
  · exact fun hw => ⟨_, hcompile, hw⟩

/-- The run of a compiled pattern accepts in one of the ways to spell the input, the only one if the
automaton is not ambiguous. -/
theorem Compiled.exists_spells {a : Automaton} (hc : Compiled σ layout p a) {t : Trace} {exit : Marks}
    (h : a.Halts 0 a.start w t exit) : ∃ t' exit', t'.map Prod.fst = w ∧
      (p.meaning σ layout).spells t' exit' ∧ (a.ambiguous = false → t' = t ∧ exit' = exit) := by
  have haccepts : 0 ∈ a.accepts w :=
    Automaton.mem_accepts_iff_halts.2 ⟨by rw [hc.patterns]; exact Nat.zero_lt_one, t, exit, h⟩
  obtain ⟨t', exit', rfl, hspells⟩ := (hc.accepts w).1 haccepts
  refine ⟨t', exit', rfl, hspells, fun ha => ?_⟩
  obtain ⟨s, ht, -, rfl⟩ := h
  obtain ⟨s', ht', rfl⟩ := hc.trace ha t' exit' hspells
  obtain ⟨rfl, rfl⟩ := Prod.mk.inj (Option.some.inj (ht.symm.trans ht'))
  exact ⟨rfl, rfl⟩

end Pattern

namespace MatcherBuilder

theorem exists_entry {σ : Alphabet} {p : Pattern} {m : Matcher Captured}
    (h : new.buildAll σ [p] = .ok m) :
    ∃ e : Entry Captured, entry σ p (fun _ captured => captured) = .ok e ∧ m = e.alone := by
  obtain ⟨b, hfold, -⟩ := bind_eq_ok.1 h
  obtain ⟨next, hpattern, -⟩ := bind_eq_ok.1 hfold
  obtain ⟨e, he, -⟩ := bind_eq_ok.1 hpattern
  exact ⟨e, he, (Except.ok.inj ((buildAll_single he).symm.trans h)).symm⟩

theorem entry_of_nodup {α : Type} {σ : Alphabet} {p : Pattern} (ho : p.overlap? σ = none) (hl : p.labels.Nodup)
    (construct : Constructor α) : entry σ p construct = .ok ⟨p.automaton σ ⟨p.labels, 0⟩, ⟨p.labels, 0⟩,
      if (p.automaton σ ⟨p.labels, 0⟩).ambiguous && !p.labels.isEmpty then
        some (.ofPattern p ⟨p.labels, 0⟩) else none, construct⟩ := by
  rw [entry, Pattern.checkedLayout_of_nodup ho hl]
  rfl

theorem buildAll_of_nodup {σ : Alphabet} {p : Pattern} (ho : p.overlap? σ = none) (hl : p.labels.Nodup) :
    new.buildAll σ [p] = .ok (Entry.alone ⟨p.automaton σ ⟨p.labels, 0⟩, ⟨p.labels, 0⟩,
      if (p.automaton σ ⟨p.labels, 0⟩).ambiguous && !p.labels.isEmpty then
        some (.ofPattern p ⟨p.labels, 0⟩) else none, fun _ captured => captured⟩) :=
  buildAll_single (entry_of_nodup ho hl _)

end MatcherBuilder

namespace Matcher

variable {σ : Alphabet} {bs : List Pattern} {b : Pattern} {m : Matcher Captured} {f : Found Captured}
  {w : List Nat} {e : Entry Captured} {c : Captured} {layout : Layout}

/-- Every group with occurrences is declared in the branch. -/
def Inside (bs : List Pattern) (b : Pattern) (c : Captured) : Prop :=
  ∀ k, c.group (k + 1) ≠ [] → ∃ label ∈ b.labels, (Pattern.allLabels bs)[k]? = some label

/-- The groups follow a branch that matches the input by itself. -/
def Follows (σ : Alphabet) (bs : List Pattern) (w : List Nat) (c : Captured) : Prop :=
  ∃ b ∈ bs, b.Recognizes σ w ∧ Inside bs b c

/-- A match of the whole input takes its groups from the replay, or else from the marks of the run. -/
theorem value_of_mem_exactAll (he : e.construct = fun _ captured => captured) (h : f ∈ e.alone.exactAll w)
    (hz : f.pattern = 0) : ∃ t exit, e.automaton.Halts 0 e.automaton.start w t exit ∧
      f.value = (e.program?.bind fun p => p.captures? 0 w).getD
        ((Recording.record ∅ 0 t).select e.layout exit ⟨0, w.length⟩) := by
  obtain ⟨hf, hstop⟩ := mem_exactAll.1 h
  obtain ⟨-, n, -, t, exit, ht, hy⟩ := mem_reportsFrom.1 hf
  have hspan := (of_found? hy).2
  rw [hz] at ht
  rw [Yields, hz] at hy
  have hl : e.alone.layouts[0]? = some e.layout := rfl
  have hc : e.alone.constructors[0]? = some e.construct := rfl
  have hn : n = w.length := by
    rw [← hstop, hspan, Nat.zero_add]
  subst hn
  rw [List.drop_zero, List.take_length] at ht
  rw [found?_eq hl hc, he] at hy
  refine ⟨t, exit, ht, ?_⟩
  rw [← Option.some.inj hy]
  simp only [capturedAt, Nat.zero_add, List.drop_zero, Nat.sub_zero, List.take_length]
  rfl

/-- Marks on the slots of a branch make groups of the branch. -/
theorem inside_select {t : Trace} {exit : Marks} {span : Span} (hb : b ∈ bs)
    (ht : ∀ step ∈ t, Marks.On (Pattern.Slots ⟨Pattern.allLabels bs, 0⟩ b.labels) step.2)
    (he : exit.On (Pattern.Slots ⟨Pattern.allLabels bs, 0⟩ b.labels)) :
    Inside bs b ((Recording.record ∅ 0 t).select ⟨Pattern.allLabels bs, 0⟩ exit span) := by
  intro k hk
  simp only [Captured.group, Recording.select, Layout.slots, List.getD_eq_getElem?_getD, List.getElem?_map] at hk
  cases hlabel : (Pattern.allLabels bs)[k]? with
  | none => simp [hlabel] at hk
  | some label =>
    rw [hlabel] at hk
    by_cases hslot : Pattern.Slots ⟨Pattern.allLabels bs, 0⟩ b.labels (Layout.slotOf ⟨Pattern.allLabels bs, 0⟩ label)
    · obtain ⟨label', hb', hslot⟩ := hslot
      have hmem := (Pattern.labels_sublist hb).mem hb'
      rw [Layout.slotOf?_of_mem hmem] at hslot
      have heq := Layout.slotOf_inj (l := ⟨Pattern.allLabels bs, 0⟩) hmem (List.mem_of_getElem? hlabel)
        (Option.some.inj hslot)
      exact ⟨label, heq ▸ hb', rfl⟩
    · exact absurd (Recording.selectSlot_of_on ht he hslot span.stop) hk

theorem inside_of_opens (h : ∀ g, c.groups.getD g [] ≠ [] →
    Program.Opens ⟨Pattern.allLabels bs, 0⟩ b.labels g) : Inside bs b c := by
  intro k hk
  obtain ⟨label, hlabel, hg⟩ := h k hk
  obtain ⟨hlt, heq, -⟩ := List.idxOf?_eq_some_iff.1 hg
  exact ⟨label, hlabel, List.getElem?_eq_some_iff.2 ⟨hlt, heq⟩⟩

section

variable (h : MatcherBuilder.new.buildAll σ [.select bs] = .ok m) (hl : (Pattern.select bs).labels.Nodup)
  (hf : m.firstExact? w = some f)

include h hl hf

/-- Some branch matches the input by itself. Exact marks are those of such a branch; a replay takes
the groups of the branch that decides. -/
theorem exists_recognizes : (∃ b ∈ bs, b.Recognizes σ w) ∧
    (m.automaton.ambiguous = false → Follows σ bs w f.value) ∧
      (m.automaton.ambiguous = true → ∃ b, Program.Decides w bs b ∧ Inside bs b f.value) := by
  obtain ⟨e, he, rfl⟩ := MatcherBuilder.exists_entry h
  obtain ⟨ho, hlayout, -, hc, hconstruct, hprogram⟩ := MatcherBuilder.entry_eq_ok he
  have hmem : f ∈ e.alone.exactAll w := List.mem_of_mem_head? (Option.mem_def.2 hf)
  obtain ⟨t, exit, hhalts, hvalue⟩ := value_of_mem_exactAll hconstruct hmem
    (pattern_of_mem_alone (MatcherBuilder.valid_entry he) (mem_exactAll.1 hmem).1)
  obtain ⟨t', exit', rfl, hspells, hexact⟩ := hc.exists_spells hhalts
  obtain ⟨b, hb, hbranch⟩ := Pattern.spells_behaveEach.1 hspells
  have hrecognizes : b.Recognizes σ (t'.map Prod.fst) :=
    (Pattern.recognizes_iff (Pattern.overlap?_of_mem ho hb) (hl.sublist (Pattern.labels_sublist hb))
      e.layout).2 ⟨t', exit', rfl, hbranch⟩
  refine ⟨⟨b, hb, hrecognizes⟩, fun ha => ⟨b, hb, hrecognizes, ?_⟩, fun ha => ?_⟩
  · change e.automaton.ambiguous = false at ha
    obtain ⟨rfl, rfl⟩ := hexact ha
    obtain ⟨ht, hexit⟩ := (Pattern.mirrors_meaning σ e.layout e.layout b).marks t' exit' hbranch
    rw [hvalue, hprogram, ha]
    rw [hlayout] at ht hexit ⊢
    exact inside_select hb ht hexit
  · change e.automaton.ambiguous = true at ha
    have hlax := Pattern.reads_meaning_le (.select bs) ⟨t', exit', rfl, hspells⟩
    obtain ⟨c, hcaptures⟩ := Option.isSome_iff_exists.1
      ((Program.isSome_captures? (.select bs) e.layout 0 _).2 hlax)
    obtain ⟨b, hb, hopens⟩ := Program.exists_decides_captures? hcaptures
    refine ⟨b, hb, ?_⟩
    rw [hvalue, hprogram, ha]
    cases hempty : e.layout.isEmpty with
    | false =>
      simp only [Bool.not_false, Bool.and_self, if_true, Option.bind_some, hcaptures, Option.getD_some]
      rw [hlayout] at hopens
      exact inside_of_opens hopens
    | true =>
      intro k hk
      have hslots : e.layout.slots = [] := by
        rw [Layout.slots, List.isEmpty_iff.1 hempty]
        rfl
      simp [Captured.group, Recording.select, hslots] at hk

end

/-- Without exclusive loops, the groups of a match follow a branch that matches. -/
theorem follows_of_standard (h : MatcherBuilder.new.buildAll σ [.select bs] = .ok m)
    (hl : (Pattern.select bs).labels.Nodup) (hs : (Pattern.select bs).Standard) (hw : σ.Admits w)
    (hf : m.firstExact? w = some f) : Follows σ bs w f.value := by
  obtain ⟨-, hexact, hreplay⟩ := exists_recognizes h hl hf
  cases ha : m.automaton.ambiguous with
  | false => exact hexact ha
  | true =>
    obtain ⟨b, hb, hinside⟩ := hreplay ha
    have hstandard := Pattern.standard_of_mem hs hb.mem
    obtain ⟨a, hcompile, hmatch⟩ := Pattern.exists_compile_isMatch_iff σ b hstandard
      (hl.sublist (Pattern.labels_sublist hb.mem))
    have hlax := hb.mem_lax
    rw [Pattern.lax_eq_lang b hstandard] at hlax
    exact ⟨b, hb.mem, ⟨a, hcompile, (hmatch w hw).2 hlax⟩, hinside⟩

/-- The groups of a match follow a branch that matches exactly if the marks are exact, if there are no
occurrences, or if the branch that decides the replay matches by itself. -/
theorem follows_iff (h : MatcherBuilder.new.buildAll σ [.select bs] = .ok m)
    (hl : (Pattern.select bs).labels.Nodup) (hf : m.firstExact? w = some f) :
    Follows σ bs w f.value ↔ m.automaton.ambiguous = false ∨ (∀ k, f.value.group (k + 1) = []) ∨
      ∃ b, Program.Decides w bs b ∧ b.Recognizes σ w := by
  obtain ⟨⟨b, hb, hrecognizes⟩, hexact, hreplay⟩ := exists_recognizes h hl hf
  constructor
  · rintro ⟨b', hb', hrecognizes', hinside'⟩
    cases ha : m.automaton.ambiguous with
    | false => exact .inl rfl
    | true =>
      obtain ⟨d, hd, hinside⟩ := hreplay ha
      refine .inr (or_iff_not_imp_left.2 fun hsome => ⟨d, hd, ?_⟩)
      -- a group with occurrences is declared in one branch only
      obtain ⟨k, hk⟩ := not_forall.1 hsome
      obtain ⟨label, hlabel, hget⟩ := hinside k hk
      obtain ⟨label', hlabel', hget'⟩ := hinside' k hk
      obtain rfl := Option.some.inj (hget.symm.trans hget')
      rwa [Pattern.eq_of_mem_labels hl hd.mem hb' hlabel hlabel']
  · rintro (ha | hnone | ⟨d, hd, hrecognizes'⟩)
    · exact hexact ha
    · exact ⟨b, hb, hrecognizes, fun k hk => absurd (hnone k) hk⟩
    · cases ha : m.automaton.ambiguous with
      | false => exact hexact ha
      | true =>
        obtain ⟨d', hd', hinside⟩ := hreplay ha
        obtain rfl := hd.unique hd'
        exact ⟨d, hd.mem, hrecognizes', hinside⟩

/-- A letter in a group, behind a loop that keeps the letter. -/
def keptLetter : Pattern :=
  .sequence [.loop (.symbols [⟨97, 98⟩]) 0 .extending, .group [0] (.symbols [⟨97, 98⟩])]

/-- The kept letter, or the letter alone in a group. -/
def letterBranches : List Pattern := [keptLetter, .group [1] (.symbols [⟨97, 98⟩])]

/-- The first branch rejects the letter, but a replay decides for it. -/
theorem follows_iff_letterBranches : ∃ m f,
    MatcherBuilder.new.buildAll .bytes [.select letterBranches] = .ok m ∧
      (Pattern.select letterBranches).labels.Nodup ∧ m.firstExact? [97] = some f ∧
        ¬ Follows .bytes letterBranches [97] f.value := by
  have ho : (Pattern.select letterBranches).overlap? .bytes = none := by decide +kernel
  have hl : (Pattern.select letterBranches).labels.Nodup := by decide
  have h := MatcherBuilder.buildAll_of_nodup ho hl
  have hlax : [97] ∈ keptLetter.lax := (Program.isSome_captures? keptLetter ⟨[[0]], 0⟩ 0 [97]).1 (by decide +kernel)
  have hreject : (keptLetter.automaton .bytes ⟨[[0]], 0⟩).isMatch [97] = false := by decide +kernel
  have hcompile : keptLetter.compile .bytes = .ok (keptLetter.automaton .bytes ⟨[[0]], 0⟩) :=
    Pattern.compile_of_nodup (by decide +kernel) (by decide)
  refine ⟨_, ⟨0, ⟨0, 1⟩, ⟨⟨0, 1⟩, [[⟨0, 1⟩], []]⟩⟩, h, hl, by decide +kernel, fun hfollows => ?_⟩
  rcases (follows_iff h hl (by decide +kernel)).1 hfollows with ha | hnone | ⟨d, hd, a, ha, hmatch⟩
  · exact absurd ha (by decide +kernel)
  · exact absurd (hnone 0) (by decide)
  · obtain rfl := hd.unique (.here hlax)
    obtain rfl := Except.ok.inj (hcompile.symm.trans ha)
    exact absurd hmatch (Bool.eq_false_iff.1 hreject)

end Matcher

end Polymatch
