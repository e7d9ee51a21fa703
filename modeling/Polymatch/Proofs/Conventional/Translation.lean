import Polymatch.Proofs.Conventional.Language

/-! # The patterns of conventional expressions

An expression has a pattern unless some part of it has no counterpart, however deep
that part lies. The pattern compiles, and its automaton matches the language of the
expression in which a class of scalar values stands for all units between the ends of
its intervals.
-/

namespace Polymatch.Conventional.Expr

variable {α β : Type} {path : Label} {first next : Nat} {e : Expr} {subs : List Expr}

/-- All units count as members of classes, surrogates too. -/
abbrev anyUnit (x : Nat) : Prop := x < Text.unitLimit

/-- The pattern has the language of the expression, and its groups are numbered from `first` on. -/
structure Translates (path : Label) (first : Nat) (e : Expr) (p : Pattern) (next : Nat) : Prop where
  standard : p.Standard
  lang_eq : p.lang = e.lang anyUnit
  numbered : Numbered path first next p.labels

/-- The same for expressions one by one; the languages are those of all in order and of any of them. -/
structure TranslatesAll (path : Label) (first : Nat) (subs : List Expr) (ps : List Pattern)
    (next : Nat) : Prop where
  standard : Pattern.AllStandard ps
  inOrder_eq : Pattern.langInOrder ps = langInOrder anyUnit subs
  ofAny_eq : Pattern.langOfAny ps = langOfAny anyUnit subs
  numbered : Numbered path first next (Pattern.allLabels ps)

/-- There is a result exactly if nothing is unsupported, and then it is as it should be. -/
def Outcome (unsupported : Prop) (good : α → Nat → Prop) : Except BuildError (α × Nat) → Prop
  | .error _ => unsupported
  | .ok (a, next) => ¬ unsupported ∧ good a next

theorem Outcome.map {unsupported : Prop} {good : α → Nat → Prop} {good' : β → Nat → Prop} {f : α → β}
    {r : Except BuildError (α × Nat)} (h : Outcome unsupported good r)
    (hf : ∀ a next, good a next → good' (f a) next) :
    Outcome unsupported good' (r.map fun (a, next) => (f a, next)) := by
  cases r with
  | error e => exact h
  | ok r => exact ⟨h.1, hf _ _ h.2⟩

namespace Translates

theorem literal {bytes : List Nat} (h : ∀ b ∈ bytes, b < 256) (path : Label) (first : Nat) :
    Translates path first (.literal bytes) (literalPattern bytes) first := by
  have hspelled : ∀ units, (Expr.literal bytes).lang anyUnit = ({units} : Language Nat) →
      Translates path first (.literal bytes) (.inOrder (units.map .symbol)) first := by
    intro units hunits
    refine ⟨Pattern.standard_inOrder (Pattern.allStandard_symbols units), ?_, ?_⟩
    · rw [Pattern.lang_inOrder, Pattern.langInOrder_symbols, hunits]
    · rw [Pattern.labels_inOrder, Pattern.allLabels_symbols]
      exact .nil path first
  rw [literalPattern]
  split
  · rename_i text htext
    have hbytes := (Text.ofBytes?_eq_some_iff h).1 htext
    refine hspelled (Text.units text) ?_
    ext w
    rw [lang]
    constructor
    · rintro (⟨text', htext', rfl⟩ | ⟨hno, -⟩)
      · have := (Text.ofBytes?_eq_some_iff h).2 htext'
        rw [htext, Option.some_inj] at this
        rw [this]
        rfl
      · exact absurd hbytes (hno text)
    · exact fun hw => .inl ⟨text, hbytes, hw⟩
  · rename_i hnone
    have hno : ∀ text, Text.bytes text ≠ bytes := by
      intro text htext
      rw [(Text.ofBytes?_eq_some_iff h).2 htext] at hnone
      cases hnone
    refine hspelled bytes ?_
    ext w
    rw [lang]
    constructor
    · rintro (⟨text, htext, -⟩ | ⟨-, hw⟩)
      · exact absurd htext (hno text)
      · exact hw
    · exact fun hw => .inr ⟨hno, hw⟩

theorem ofRanges {ranges : List Interval}
    (h : ({w | ∃ x, Interval.covers ranges x = true ∧ w = [x]} : Language Nat) = e.lang anyUnit)
    (path : Label) (first : Nat) : Translates path first e (.ofRanges ranges) first where
  standard := Interval.normalize_apart ranges
  lang_eq := by
    rw [← h, Pattern.ofRanges, Pattern.lang]
    simp only [Interval.covers_normalize]
    rfl
  numbered := .nil path first

end Translates

theorem covers_basicRanges {ranges : List Interval} {x : Nat} :
    Interval.covers (basicRanges ranges) x = true ↔ Interval.covers ranges x = true ∧ anyUnit x := by
  simp only [basicRanges, Interval.covers_iff, List.mem_map, List.mem_filter, decide_eq_true_eq]
  constructor
  · rintro ⟨_, ⟨i, ⟨hi, hlo⟩, rfl⟩, hle, hlt⟩
    exact ⟨⟨i, hi, hle, Nat.lt_of_lt_of_le hlt (Nat.min_le_left ..)⟩,
      Nat.lt_of_lt_of_le hlt (Nat.min_le_right ..)⟩
  · rintro ⟨⟨i, hi, hle, hlt⟩, hunit⟩
    exact ⟨_, ⟨i, ⟨hi, Nat.lt_of_le_of_lt hle hunit⟩, rfl⟩, hle, Nat.lt_min.2 ⟨hlt, hunit⟩⟩

/-- Nothing is left of a class exactly if none of its scalar values lies in the basic plane. -/
theorem basicRanges_eq_nil_iff {ranges : List Interval} (h : (scalarClass ranges).Valid) :
    basicRanges ranges = [] ↔
      ∀ x, Interval.covers ranges x = true → x.isValidChar → Text.unitLimit ≤ x := by
  simp only [basicRanges, List.map_eq_nil_iff, List.filter_eq_nil_iff, decide_eq_true_eq, Nat.not_lt]
  constructor
  · intro hbeyond x hx _
    obtain ⟨i, hi, hle, -⟩ := Interval.covers_iff.1 hx
    exact Nat.le_trans (hbeyond i hi) hle
  · intro hbeyond i hi
    obtain ⟨hlt, hchar⟩ := h i hi
    exact hbeyond i.lo (Interval.covers_iff.2 ⟨i, hi, Nat.le_refl _, hlt⟩) hchar

theorem outcome_scalarPattern {ranges : List Interval} (h : (scalarClass ranges).Valid) (path : Label)
    (first : Nat) : Outcome (scalarClass ranges).Unsupported (Translates path first (.scalarClass ranges))
      ((scalarPattern ranges).map (·, first)) := by
  have hiff : ((basicRanges ranges).isEmpty && !ranges.isEmpty) = true ↔ (scalarClass ranges).Unsupported := by
    rw [Unsupported, ← basicRanges_eq_nil_iff h, Bool.and_eq_true, List.isEmpty_iff, Bool.not_eq_true',
      List.isEmpty_eq_false_iff, and_comm]
  simp only [scalarPattern]
  split
  · rename_i hunsupported
    exact hiff.1 hunsupported
  · rename_i hsupported
    refine ⟨fun hunsupported => hsupported (hiff.2 hunsupported), .ofRanges ?_ path first⟩
    simp only [lang, covers_basicRanges, and_assoc]

/-- Finitely many rounds are counted one by one. -/
theorem mem_range'_iff {min max n : Nat} (h : min ≤ max) :
    n ∈ List.range' min (max + 1 - min) ↔ min ≤ n ∧ n ≤ max := by
  rw [List.mem_range'_1]
  omega

namespace Translates

variable {p : Pattern} {min max : Nat} {greedy : Bool}

theorem loop (h : Translates path first e p next) :
    Translates path first (.repetition min none greedy e) (.loop p min .plain) next where
  standard := ⟨h.standard, rfl⟩
  lang_eq := by
    ext w
    rw [Pattern.lang, lang, h.lang_eq]
    exact exists_congr fun n => and_congr_right fun _ => (and_iff_right fun _ hm => nomatch hm).symm
  numbered := h.numbered

theorem times (h : Translates path first e p next) (hle : min ≤ max) :
    Translates path first (.repetition min (some max) greedy e)
      (p.times (List.range' min (max + 1 - min))) next where
  standard := ⟨h.standard, Pattern.normalCounts_ne_nil _, Pattern.normalCounts_ascending _⟩
  lang_eq := by
    have hne : List.range' min (max + 1 - min) ≠ [] := by
      rw [Ne, List.range'_eq_nil_iff]
      omega
    ext w
    rw [Pattern.lang_times p hne, h.lang_eq, lang]
    refine exists_congr fun n => ?_
    rw [mem_range'_iff hle, and_assoc]
    simp only [Option.mem_some_iff, forall_eq', ge_iff_le]
  numbered := h.numbered

end Translates

mutual

theorem outcome_patternWithin : ∀ (e : Expr) (path : Label) (first : Nat), e.Valid →
    Outcome e.Unsupported (Translates path first e) (patternWithin path first e)
  | empty, path, first => fun _ => ⟨id, trivial, rfl, .nil path first⟩
  | literal bytes, path, first => fun h => ⟨id, .literal h path first⟩
  | scalarClass ranges, path, first => fun h => outcome_scalarPattern h path first
  | byteClass ranges, path, first => fun _ => ⟨id, .ofRanges rfl path first⟩
  | look assertion, path, first => fun _ => trivial
  | repetition min max? greedy sub, path, first => fun h => by
    have ih := outcome_patternWithin sub path first h.1
    rw [patternWithin]
    cases hsub : patternWithin path first sub with
    | error fault =>
      rw [hsub] at ih
      exact .inl ih
    | ok r =>
      rw [hsub] at ih
      obtain ⟨hsupported, hbody⟩ := ih
      cases max? with
      | none =>
        exact ⟨fun hunsupported => hunsupported.elim hsupported fun ⟨_, hm, _⟩ => (nomatch hm), hbody.loop⟩
      | some max =>
        dsimp only
        split
        · rename_i hmax
          exact .inr ⟨max, rfl, hmax⟩
        · rename_i hmax
          refine ⟨fun hunsupported => hunsupported.elim hsupported ?_, hbody.times (h.2 max rfl)⟩
          rintro ⟨_, hm, hlt⟩
          exact hmax (Option.mem_some_iff.1 hm ▸ hlt)
  | capture index sub, path, first => fun h => by
    have ih := outcome_patternWithin sub (path ++ [first]) 0 h
    rw [patternWithin]
    cases hsub : patternWithin (path ++ [first]) 0 sub with
    | error fault =>
      rw [hsub] at ih
      exact ih
    | ok r =>
      rw [hsub] at ih
      exact ⟨ih.1, ih.2.standard, ih.2.lang_eq, ih.2.numbered.group⟩
  | concat subs, path, first => fun h => by
    rw [patternWithin]
    refine (outcome_patternsWithin subs path first h).map fun ps next hps => ?_
    refine ⟨Pattern.standard_inOrder hps.standard, ?_, ?_⟩
    · rw [Pattern.lang_inOrder, hps.inOrder_eq, lang]
    · rw [Pattern.labels_inOrder]
      exact hps.numbered
  | alternation subs, path, first => fun h => by
    rw [patternWithin]
    refine (outcome_patternsWithin subs path first h).map fun ps next hps => ?_
    refine ⟨Pattern.standard_oneOf hps.standard, ?_, ?_⟩
    · rw [Pattern.lang_oneOf, hps.ofAny_eq, lang]
    · rw [Pattern.labels_oneOf]
      exact hps.numbered

theorem outcome_patternsWithin : ∀ (subs : List Expr) (path : Label) (first : Nat), AllValid subs →
    Outcome (AnyUnsupported subs) (TranslatesAll path first subs) (patternsWithin path first subs)
  | [], path, first => fun _ => ⟨id, trivial, rfl, rfl, .nil path first⟩
  | e :: rest, path, first => fun h => by
    have ih := outcome_patternWithin e path first h.1
    rw [patternsWithin]
    cases he : patternWithin path first e with
    | error fault =>
      rw [he] at ih
      exact .inl ih
    | ok r =>
      obtain ⟨p, next⟩ := r
      rw [he] at ih
      obtain ⟨hsupported, hp⟩ := ih
      have ihrest := outcome_patternsWithin rest path next h.2
      dsimp only
      cases hrest : patternsWithin path next rest with
      | error fault =>
        rw [hrest] at ihrest
        exact .inr ihrest
      | ok r =>
        rw [hrest] at ihrest
        obtain ⟨hsupported', hps⟩ := ihrest
        refine ⟨fun hunsupported => hunsupported.elim hsupported hsupported', ?_⟩
        refine ⟨⟨hp.standard, hps.standard⟩, ?_, ?_, hp.numbered.append hps.numbered⟩
        · rw [Pattern.langInOrder, langInOrder, hp.lang_eq, hps.inOrder_eq]
        · rw [Pattern.langOfAny, langOfAny, hp.lang_eq, hps.ofAny_eq]

end

/-- There is a pattern exactly if no part lacks a counterpart. -/
theorem outcome_toPattern (h : e.Valid) :
    (e.Unsupported ∧ ∃ fault, e.toPattern = .error fault) ∨
      ¬ e.Unsupported ∧ ∃ p next, e.toPattern = .ok p ∧ Translates [] 0 e p next := by
  have hout := outcome_patternWithin e [] 0 h
  rw [toPattern]
  cases hr : patternWithin [] 0 e with
  | error fault =>
    rw [hr] at hout
    exact .inl ⟨hout, fault, rfl⟩
  | ok r =>
    rw [hr] at hout
    exact .inr ⟨hout.1, r.1, r.2, rfl, hout.2⟩

/-- The automaton of the pattern matches the language of the expression. -/
theorem Translates.exists_compile {p : Pattern} (h : Translates path first e p next) :
    ∃ a, p.compile .units = .ok a ∧
      ∀ w, Alphabet.units.Admits w → (a.isMatch w = true ↔ w ∈ e.lang anyUnit) := by
  have ho := Pattern.overlap?_eq_none .units p h.standard
  refine ⟨_, Pattern.compile_of_nodup ho h.numbered.nodup, fun w hw => ?_⟩
  have hreads := Pattern.denotes_behave (σ := .units) ⟨p.labels, 0⟩ p ∅ (fun _ : True => h.standard)
    .done .done w
  rw [Behaviour.reads_done, Behaviour.leading_self, mul_one, Pattern.lax_eq_lang p h.standard,
    h.lang_eq] at hreads
  rw [(Pattern.compiled_automaton ho ⟨p.labels, 0⟩).isMatch_iff]
  exact ⟨hreads.1, hreads.2 trivial hw⟩

/-- An expression has no pattern if some part of it lacks a counterpart. Otherwise its pattern
compiles, and the automaton matches the inputs that the expression stands for, where a class of scalar
values stands for the units between the ends of its intervals. -/
theorem exists_toPattern_isMatch_iff (e : Expr) (h : e.Valid) :
    (e.Unsupported → ∃ fault, e.toPattern = .error fault) ∧
      (¬ e.Unsupported → ∃ p a, e.toPattern = .ok p ∧ p.compile .units = .ok a ∧
        ∀ w, Alphabet.units.Admits w → (a.isMatch w = true ↔ w ∈ e.lang (· < Text.unitLimit))) := by
  rcases outcome_toPattern h with ⟨hunsupported, hfault⟩ | ⟨hsupported, p, next, hp, htranslates⟩
  · exact ⟨fun _ => hfault, fun hsupported => absurd hunsupported hsupported⟩
  · obtain ⟨a, ha, hmatch⟩ := htranslates.exists_compile
    exact ⟨fun hunsupported => absurd hunsupported hsupported, fun _ => ⟨p, a, hp, ha, hmatch⟩⟩

/-- A letter outside the basic ones in front of a group, in which one or two characters are letters in
a group of their own or a byte that is no text. -/
def groupedLetters : Expr :=
  concat [literal [0xC3, 0xA9], capture 1 (repetition 1 (some 2) true
    (alternation [capture 2 (scalarClass [⟨0x61, 0x7B⟩, ⟨0xFFFF, 0x10002⟩]), literal [0xFF]]))]

/-- The same in front of an assertion. -/
def assertedLetters : Expr := concat [groupedLetters, capture 3 (look .start)]

theorem exists_toPattern_isMatch_iff_groupedLetters :
    (∃ p a, groupedLetters.toPattern = .ok p ∧ p.compile .units = .ok a ∧ ∀ w, Alphabet.units.Admits w →
      (a.isMatch w = true ↔ w ∈ groupedLetters.lang (· < Text.unitLimit))) ∧
      ∃ fault, assertedLetters.toPattern = .error fault := by
  have hvalid : groupedLetters.Valid := by
    simp only [groupedLetters, Valid, AllValid]
    decide
  have hsupported : ¬ groupedLetters.Unsupported := by
    simp only [groupedLetters, Unsupported, AnyUnsupported, false_or, or_false]
    rintro (⟨-, hbeyond⟩ | ⟨max, hmax, hlt⟩)
    · exact absurd (hbeyond 0x61 (by decide) (by decide)) (by decide)
    · cases hmax
      exact absurd hlt (by decide)
  have hvalid' : assertedLetters.Valid := ⟨hvalid, trivial, trivial⟩
  exact ⟨(exists_toPattern_isMatch_iff groupedLetters hvalid).2 hsupported,
    (exists_toPattern_isMatch_iff assertedLetters hvalid').1 (.inr (.inl trivial))⟩

/-- Any scalar value. -/
def anyScalar : Expr := scalarClass [⟨0, 0x110000⟩]

/-- A surrogate on its own is matched although it is no scalar value. -/
theorem anyScalar_matches_surrogate :
    anyScalar.Valid ∧ ¬ anyScalar.Unsupported ∧ Alphabet.units.Admits [0xD800] ∧
      [0xD800] ∉ anyScalar.lang (fun x => x.isValidChar ∧ x < Text.unitLimit) ∧
      ∃ p a, anyScalar.toPattern = .ok p ∧ p.compile .units = .ok a ∧ a.isMatch [0xD800] = true := by
  have hvalid : anyScalar.Valid := by
    simp only [anyScalar, Valid]
    decide
  have hsupported : ¬ anyScalar.Unsupported := fun h => absurd (h.2 0x61 (by decide) (by decide)) (by decide)
  have hadmits : Alphabet.units.Admits [0xD800] := List.forall_mem_singleton.2 (by decide)
  refine ⟨hvalid, hsupported, hadmits, ?_, ?_⟩
  · rintro ⟨x, -, ⟨hchar, -⟩, hx⟩
    obtain rfl := List.singleton_inj.1 hx
    exact absurd hchar (by decide)
  · rcases outcome_toPattern hvalid with ⟨h, -⟩ | ⟨-, p, next, hp, htranslates⟩
    · exact absurd h hsupported
    · obtain ⟨a, ha, hmatch⟩ := htranslates.exists_compile
      exact ⟨p, a, hp, ha, (hmatch _ hadmits).2 ⟨0xD800, by decide, by decide, rfl⟩⟩

end Polymatch.Conventional.Expr
