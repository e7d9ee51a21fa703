import Polymatch.Proofs.Pattern.Orderly
import Polymatch.Proofs.Pattern.Reading

/-! # Atoms

An atom of a pattern text has no groups, and its classes are in normal form: escapes and
class items name units only, and a class is put in normal form before case is folded and
it is negated.
-/

namespace Polymatch.Pattern

open Grammar

variable {options : ParseOptions} {opened t u : List Char} {n : Nat} {l : List Interval} {p : Pattern}

/-- Intervals of units. -/
def Bounded (l : List Interval) : Prop := ∀ i ∈ l, i.hi ≤ Text.unitLimit

/-- An orderly pattern without groups. -/
def Bare (p : Pattern) : Prop := ∀ (path : Label) (first : Nat), p.Orderly path first first

theorem bare_symbols (h : Interval.Canonical Text.unitLimit l) : (symbols l).Bare := fun _ _ => ⟨h, rfl⟩

theorem bare_symbol (h : n < Text.unitLimit) : (symbol n).Bare :=
  bare_symbols (.singleton (Nat.lt_succ_self n) h)

theorem bare_any : any.Bare := bare_symbols (.singleton (by decide) (Nat.le_refl _))

theorem bare_ofRanges (h : Bounded l) : (ofRanges l).Bare := bare_symbols (Interval.canonical_normalize h)

theorem allOrderly_of_bare {items : List Pattern} (h : ∀ p ∈ items, p.Bare) (path : Label) (first : Nat) :
    AllOrderly items path first first := by
  induction items with
  | nil => rfl
  | cons p items ih =>
    obtain ⟨hp, hitems⟩ := List.forall_mem_cons.1 h
    exact ⟨first, hp path first, ih hitems⟩

/-- The symbols of some units in order. -/
theorem bare_units {units : List Nat} (h : ∀ n ∈ units, n < Text.unitLimit) :
    (inOrder (units.map symbol)).Bare := fun path first =>
  orderly_inOrder (allOrderly_of_bare (List.forall_mem_map.2 fun n hn => bare_symbol (h n hn)) path first)

theorem lt_of_mem_charUnits {c : Char} (h : n ∈ Text.charUnits c) : n < Text.unitLimit := by
  have hc : c.toNat < 0x110000 := by
    have := c.valid
    simp only [UInt32.isValidChar, Nat.isValidChar] at this
    simp only [Char.toNat]
    omega
  simp only [Text.charUnits] at h
  split at h
  · rwa [List.mem_singleton.1 h]
  · simp only [List.mem_cons, List.not_mem_nil, or_false, Text.unitLimit] at *
    omega

theorem canonical_foldCase (h : Bounded l) : Interval.Canonical Text.unitLimit (foldCase l) := by
  refine Interval.canonical_normalize (List.forall_mem_append.2 ⟨h, List.forall_mem_map.2 fun n hn => ?_⟩)
  obtain ⟨r, -, hn⟩ := List.mem_flatMap.1 hn
  obtain ⟨m, -, hn⟩ := List.mem_flatMap.1 hn
  exact of_decide_eq_true (List.mem_filter.1 hn).2

theorem bare_ofUnit (h : n < Text.unitLimit) : (ofUnit options n).Bare := by
  rw [ofUnit]
  split
  · exact bare_symbols (canonical_foldCase (List.forall_mem_singleton.2 h))
  · exact bare_symbol h

theorem bare_ofChar (c : Char) : (ofChar options c).Bare := by
  have hunits : ∀ n ∈ Text.charUnits c, n < Text.unitLimit := fun _ => lt_of_mem_charUnits
  rw [ofChar]
  split
  · rename_i n heq
    exact bare_ofUnit (hunits n (heq ▸ List.mem_singleton_self n))
  · exact fun path first =>
      allOrderly_of_bare (List.forall_mem_map.2 fun n hn => bare_symbol (hunits n hn)) path first

namespace Escape

/-- The escape stands for units. -/
def Bounded : Escape → Prop
  | unit n => n < Text.unitLimit
  | ranges l => Pattern.Bounded l

theorem lt_of_unitEscape (h : UnitEscape t n u) : n < Text.unitLimit := by
  cases h with
  | control h =>
    have hall : ∀ d ∈ controls, d.2 < Text.unitLimit := by decide
    exact hall _ h
  | punctuation h =>
    have hall : ∀ c ∈ Grammar.punctuation, c.toNat < Text.unitLimit := by simp [Grammar.punctuation, Text.unitLimit]
    exact hall _ h
  | hex ha hb hc hd =>
    have hall : ∀ d ∈ hexDigits, d.2 < 16 := by decide +kernel
    have := hall _ ha
    have := hall _ hb
    have := hall _ hc
    have := hall _ hd
    rw [Text.unitLimit]
    omega

theorem bounded_of_named? {c : Char} (h : named? c = some (ranges l)) : Pattern.Bounded l := by
  rw [Pattern.Bounded]
  unfold named? at h
  split at h <;> cases h <;> decide

theorem bounded_of_read {e : Escape} (h : read t = .ok (e, u)) : e.Bounded := by
  cases e with
  | unit n => exact lt_of_unitEscape (read_eq_unit.1 h)
  | ranges l =>
    obtain ⟨c, hc, rfl⟩ := read_eq_ranges.1 ⟨l, h⟩
    have hu : ∀ d ∈ classLetters, d ≠ 'u' := by simp [classLetters]
    obtain ⟨l', hl'⟩ := named?_eq_ranges.2 hc
    rw [read_cons (hu c hc), hl'] at h
    cases h
    exact bounded_of_named? hl'

end Escape

theorem bounded_of_readClassAtom {e : Escape} (h : readClassAtom opened t = .ok (e, u)) : e.Bounded := by
  unfold readClassAtom at h
  split at h
  · cases h
  · split at h
    · cases h
    · rename_i hr
      cases h
      exact Escape.bounded_of_read hr
  · split at h
    · rename_i hc
      cases h
      exact hc
    · cases h

theorem le_of_readRangeEnd {item : List Char} {i : Interval} (h : readRangeEnd opened item n t = .ok (i, u)) :
    i.hi ≤ Text.unitLimit := by
  unfold readRangeEnd at h
  split at h
  · cases h
  · cases h
  · rename_i hr
    split at h
    · cases h
    · cases h
      exact bounded_of_readClassAtom hr

theorem bounded_of_readClassItem (h : readClassItem opened t = .ok (l, u)) : Bounded l := by
  unfold readClassItem at h
  split at h
  · cases h
  · rename_i hr
    cases h
    exact bounded_of_readClassAtom hr
  · rename_i hr
    split at h
    · cases h
      exact List.forall_mem_singleton.2 (bounded_of_readClassAtom hr)
    · obtain ⟨⟨i, rest⟩, hi, hl⟩ := map_eq_ok.1 h
      cases hl
      exact List.forall_mem_singleton.2 (le_of_readRangeEnd hi)
  · rename_i hr
    cases h
    exact List.forall_mem_singleton.2 (bounded_of_readClassAtom hr)

theorem bounded_of_readClassItems (h : readClassItems opened t = .ok (l, u)) : Bounded l := by
  fun_induction readClassItems opened t generalizing l u with
  | case1 =>
    cases h
    exact List.forall_mem_nil _
  | case2 => cases h
  | case3 t _ first rest hfirst _ ih =>
    obtain ⟨⟨later, behind⟩, hlater, hl⟩ := map_eq_ok.1 h
    cases hl
    exact List.forall_mem_append.2 ⟨bounded_of_readClassItem hfirst, ih hlater⟩

theorem canonical_classRanges (h : Bounded l) (negated : Bool) :
    Interval.Canonical Text.unitLimit (classRanges options negated l) := by
  have hnormal := Interval.canonical_normalize h
  have hfolded : Interval.Canonical Text.unitLimit
      (if options.ignoreCase then foldCase (Interval.normalize l) else Interval.normalize l) := by
    split
    · exact canonical_foldCase hnormal.le_limit
    · exact hnormal
  simp only [classRanges]
  split
  · exact Interval.canonical_complement hfolded _
  · exact hfolded

theorem bare_of_readClass (h : readClass options t = .ok (p, u)) : p.Bare := by
  have hbody : ∀ {opened t negated}, readClassBody options opened negated t = .ok (p, u) → p.Bare := by
    intro opened t negated h
    unfold readClassBody at h
    split at h
    · cases h
    · rename_i hitems
      cases h
      exact bare_symbols (canonical_classRanges (bounded_of_readClassItems hitems) negated)
  unfold readClass at h
  split at h <;> exact hbody h

namespace Token

/-- An atom is bare. -/
def Sound : Token → Prop
  | atom p => p.Bare
  | _ => True

theorem sound_readEscape (t : List Char) : (readEscape options t).1.Sound := by
  rw [readEscape]
  split
  · rename_i hr
    exact bare_ofUnit (Escape.bounded_of_read hr)
  · rename_i hr
    exact bare_ofRanges (Escape.bounded_of_read hr)
  · trivial

theorem sound_read (c : Char) (t : List Char) : (read options c t).1.Sound := by
  unfold read
  split
  case h_4 => exact bare_any
  case h_5 =>
    cases hr : readClass options t with
    | error fault => trivial
    | ok read => exact bare_of_readClass hr
  case h_6 => exact sound_readEscape t
  case h_10 => cases Quantifier.readBraced t <;> trivial
  case h_11 => exact bare_ofChar _
  all_goals trivial

end Token

theorem sound_of_mem_lexemes {lexeme : Lexeme} (h : lexeme ∈ lexemes options t) : lexeme.token.Sound := by
  fun_induction lexemes options t with
  | case1 => cases h
  | case2 c t _ ih =>
    rcases List.mem_cons.1 h with rfl | h
    · exact Token.sound_read c t
    · exact ih h

end Polymatch.Pattern
