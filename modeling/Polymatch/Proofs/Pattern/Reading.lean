import Polymatch.Pattern.Token
import Polymatch.Proofs.Errors
import Polymatch.Proofs.Pattern.Grammar
import Polymatch.Proofs.Text.Slice

/-! # Reading escapes, classes and counts

The readers of escapes, classes and counts succeed on what the grammar has, and on
nothing else, and leave what the grammar leaves.
-/

namespace Polymatch.Pattern

open Grammar

variable {t u v : List Char} {c : Char} {n m : Nat}

namespace Escape

theorem lt_of_hexDigit? (h : hexDigit? c = some n) : c.toNat < 128 := by
  unfold hexDigit? at h
  split at h
  · exact Text.lt_of_isDigit ‹_›
  · split at h
    · rename_i hl
      simp only [Char.le_def, UInt32.le_iff_toNat_le] at hl
      exact Nat.lt_of_le_of_lt hl.2 (by decide)
    · split at h
      · rename_i hl
        simp only [Char.le_def, UInt32.le_iff_toNat_le] at hl
        exact Nat.lt_of_le_of_lt hl.2 (by decide)
      · exact nomatch h

theorem hexDigit?_eq_some : hexDigit? c = some n ↔ (c, n) ∈ hexDigits := by
  constructor
  · intro h
    have hall : ∀ k < 128, ∀ n ∈ hexDigit? (Char.ofNat k), (Char.ofNat k, n) ∈ hexDigits := by
      decide +kernel
    have hc := hall c.toNat (lt_of_hexDigit? h) n
    rw [Char.ofNat_toNat] at hc
    exact hc h
  · have hall : ∀ d ∈ hexDigits, hexDigit? d.1 = some d.2 := by decide +kernel
    exact hall (c, n)

theorem unitOfHex?_eq_some {a b c d : Char} : unitOfHex? a b c d = some n ↔ ∃ x y z w, (a, x) ∈ hexDigits ∧
    (b, y) ∈ hexDigits ∧ (c, z) ∈ hexDigits ∧ (d, w) ∈ hexDigits ∧ 0x1000 * x + 0x100 * y + 0x10 * z + w = n := by
  simp only [unitOfHex?, ← hexDigit?_eq_some, bind, Option.bind_eq_some_iff, pure, Option.some.injEq,
    exists_and_left]

theorem named?_eq_unit : named? c = some (unit n) ↔ (c, n) ∈ controls := by
  unfold named?
  split <;> simp_all [controls, eq_comm]

theorem named?_eq_ranges : (∃ l, named? c = some (ranges l)) ↔ c ∈ classLetters := by
  unfold named?
  split <;> simp_all [classLetters]
  
theorem read_cons (hc : c ≠ 'u') : read (c :: t) =
    match named? c with
    | some e => .ok (e, t)
    | none => if metacharacters.contains c then .ok (unit c.toNat, t) else .error (.unknownEscape c) := by
  unfold read
  split
  case h_1 heq => exact nomatch heq
  case h_2 heq => exact (hc (List.cons.inj heq).1).elim
  case h_3 heq => exact (hc (List.cons.inj heq).1).elim
  case h_4 heq =>
    cases heq
    rfl

/-- An escape of one unit is read as in the grammar. -/
theorem read_eq_unit : read t = .ok (unit n, u) ↔ UnitEscape t n u := by
  constructor
  · intro h
    unfold read at h
    split at h
    · exact nomatch h
    · split at h
      · rename_i hx
        obtain ⟨x, y, z, w, ha, hb, hc, hd, rfl⟩ := unitOfHex?_eq_some.1 hx
        cases h
        exact .hex ha hb hc hd
      · exact nomatch h
    · exact nomatch h
    · split at h
      · rename_i hn
        cases h
        exact .control (named?_eq_unit.1 hn)
      · split at h
        · rename_i hp
          cases h
          exact .punctuation (List.contains_iff_mem.1 hp)
        · exact nomatch h
  · intro h
    cases h with
    | control hc =>
      have hu : ∀ d ∈ controls, d.1 ≠ 'u' := by simp [controls]
      rw [read_cons (hu _ hc), named?_eq_unit.2 hc]
    | @punctuation c u hc =>
      have hall : ∀ d ∈ punctuation, d ≠ 'u' ∧ named? d = none ∧ metacharacters.contains d = true := by
        simp [punctuation, named?, metacharacters]
      obtain ⟨hu, hn, hm⟩ := hall c hc
      rw [read_cons hu, hn]
      simp only [hm, if_true]
    | hex ha hb hc hd =>
      have hx := unitOfHex?_eq_some.2 ⟨_, _, _, _, ha, hb, hc, hd, rfl⟩
      simp only [read, hx]

theorem read_eq_ranges : (∃ l, read t = .ok (ranges l, u)) ↔ ∃ c ∈ classLetters, t = c :: u := by
  constructor
  · rintro ⟨l, h⟩
    unfold read at h
    split at h
    · exact nomatch h
    · split at h <;> exact nomatch h
    · exact nomatch h
    · split at h
      · rename_i hn
        cases h
        exact ⟨_, named?_eq_ranges.1 ⟨l, hn⟩, rfl⟩
      · split at h <;> exact nomatch h
  · rintro ⟨c, hc, rfl⟩
    have hu : ∀ d ∈ classLetters, d ≠ 'u' := by simp [classLetters]
    obtain ⟨l, hl⟩ := named?_eq_ranges.2 hc
    exact ⟨l, by rw [read_cons (hu c hc), hl]⟩

theorem length_lt_of_atom (h : Atom ('\\' :: t) u) : u.length < t.length := by
  rcases atom_escape_iff.1 h with ⟨n, h⟩ | ⟨c, hc, rfl⟩
  · exact length_read (read_eq_unit.2 h)
  · exact Nat.lt_succ_self _

end Escape

section

variable {options : ParseOptions} {opened item : List Char}

theorem Grammar.ClassUnit.exists_cons (h : ClassUnit t n u) : ∃ c v, t = c :: v ∧ c ≠ ']' := by
  cases h with
  | char hc => exact ⟨_, _, rfl, hc⟩
  | escape => exact ⟨_, _, rfl, by decide⟩

theorem Grammar.ClassUnit.ne_bracket (h : ClassUnit t n u) (v : List Char) : t ≠ ']' :: v := by
  obtain ⟨c, w, rfl, hc⟩ := h.exists_cons
  exact fun heq => hc (List.cons.inj heq).1

theorem readClassAtom_eq_unit (ht : ∀ v, t ≠ ']' :: v) :
    readClassAtom opened t = .ok (.unit n, u) ↔ ClassUnit t n u := by
  constructor
  · intro h
    unfold readClassAtom at h
    split at h
    · exact nomatch h
    · split at h
      · exact nomatch h
      · rename_i hr
        cases h
        exact .escape (Escape.read_eq_unit.1 hr)
    · rename_i c rest hc
      split at h
      · rename_i hlt
        cases h
        exact .char (fun hb => ht _ (congrArg (· :: _) hb)) hc (Nat.le_of_lt_succ hlt)
      · exact nomatch h
  · intro h
    cases h with
    | @char c t _ hc hle => 
      rw [readClassAtom]
      · exact if_pos (Nat.lt_succ_of_le hle)
      · exact hc
    | escape h => rw [readClassAtom, Escape.read_eq_unit.2 h]

theorem readClassAtom_eq_ranges : (∃ l, readClassAtom opened t = .ok (.ranges l, u)) ↔
    ∃ c ∈ classLetters, t = '\\' :: c :: u := by
  constructor
  · rintro ⟨l, h⟩
    unfold readClassAtom at h
    split at h
    · exact nomatch h
    · split at h
      · exact nomatch h
      · rename_i hr
        cases h
        obtain ⟨c, hc, rfl⟩ := Escape.read_eq_ranges.1 ⟨l, hr⟩
        exact ⟨c, hc, rfl⟩
    · split at h <;> exact nomatch h
  · rintro ⟨c, hc, rfl⟩
    obtain ⟨l, hl⟩ := Escape.read_eq_ranges.2 ⟨c, hc, rfl⟩
    exact ⟨l, by rw [readClassAtom, hl]⟩

theorem readRangeEnd_ok (ht : ∀ v, t ≠ ']' :: v) :
    (∃ i, readRangeEnd opened item n t = .ok (i, u)) ↔ ∃ m, ClassUnit t m u ∧ n ≤ m := by
  unfold readRangeEnd
  constructor
  · rintro ⟨i, h⟩
    split at h
    · exact nomatch h
    · exact nomatch h
    · rename_i hr
      split at h
      · exact nomatch h
      · rename_i hge
        cases h
        exact ⟨_, (readClassAtom_eq_unit ht).1 hr, Nat.le_of_not_lt hge⟩
  · rintro ⟨m, hm, hle⟩
    rw [(readClassAtom_eq_unit ht).2 hm]
    exact ⟨_, if_neg (Nat.not_lt_of_le hle)⟩

/-- An item of a class, read as in the grammar. -/
theorem readClassItem_ok (ht : ∀ v, t ≠ ']' :: v) : (∃ l, readClassItem opened t = .ok (l, u)) ↔
    (∃ c ∈ classLetters, t = '\\' :: c :: u) ∨
      (∃ n m v, ClassUnit t n ('-' :: v) ∧ ClassUnit v m u ∧ n ≤ m) ∨
        ∃ n, ClassUnit t n u ∧ ∀ c v, u = '-' :: c :: v → c = ']' := by
  constructor
  · rintro ⟨l, h⟩
    unfold readClassItem at h
    split at h
    · exact nomatch h
    · rename_i hr
      cases h
      exact .inl (readClassAtom_eq_ranges.1 ⟨_, hr⟩)
    · rename_i lo c rest hr
      have hunit := (readClassAtom_eq_unit ht).1 hr
      split at h
      · rename_i hc
        cases h
        exact .inr (.inr ⟨lo, hunit, fun d v heq => by rw [← hc, (List.cons.inj (List.cons.inj heq).2).1]⟩)
      · rename_i hc
        obtain ⟨⟨i, w⟩, hi, heq⟩ := map_eq_ok.1 h
        cases heq
        obtain ⟨m, hm, hle⟩ := (readRangeEnd_ok fun v heq => hc (List.cons.inj heq).1).1 ⟨i, hi⟩
        exact .inr (.inl ⟨lo, m, _, hunit, hm, hle⟩)
    · rename_i hno hr
      cases h
      exact .inr (.inr ⟨_, (readClassAtom_eq_unit ht).1 hr, fun c v heq => (hno _ _ heq).elim⟩)
  · rintro (hr | ⟨n, m, v, hn, hm, hle⟩ | ⟨n, hn, hnext⟩)
    · obtain ⟨l, hl⟩ := readClassAtom_eq_ranges.2 hr
      exact ⟨l, by rw [readClassItem, hl]⟩
    · obtain ⟨i, hi⟩ := (@readRangeEnd_ok _ _ _ opened t hm.ne_bracket).2 ⟨m, hm, hle⟩
      obtain ⟨c, w, rfl, hc⟩ := hm.exists_cons
      refine ⟨[i], ?_⟩
      rw [readClassItem, (readClassAtom_eq_unit ht).2 hn]
      exact (if_neg hc).trans (map_eq_ok.2 ⟨_, hi, rfl⟩)
    · rw [readClassItem, (readClassAtom_eq_unit ht).2 hn]
      split
      case h_1 heq => exact nomatch heq
      case h_2 heq => exact nomatch heq
      case h_3 heq =>
        cases heq
        exact ⟨_, if_pos (hnext _ _ rfl)⟩
      case h_4 heq =>
        cases heq
        exact ⟨_, rfl⟩

theorem readClassItems_of_item {l : List Interval} (ht : ∀ v, t ≠ ']' :: v)
    (h : readClassItem opened t = .ok (l, u)) : readClassItems opened t =
      (fun (later, rest) => (l ++ later, rest)) <$> readClassItems opened u := by
  rw [readClassItems]
  · split
    · rename_i hr
      rw [h] at hr
      cases hr
    · rename_i hr
      obtain ⟨rfl, rfl⟩ := Prod.mk.inj (Except.ok.inj (h.symm.trans hr))
      rfl
  · exact ht

/-- The items of a class are read as in the grammar. -/
theorem readClassItems_ok : (∃ l, readClassItems opened t = .ok (l, u)) ↔ ClassItems t u := by
  constructor
  · rintro ⟨l, h⟩
    fun_induction readClassItems opened t generalizing l u with
    | case1 rest =>
      cases h
      exact .close
    | case2 => cases h
    | case3 t ht item v hi _ ih =>
      obtain ⟨⟨later, rest⟩, hr, heq⟩ := map_eq_ok.1 h
      cases heq
      have hrest := ih _ hr
      rcases (readClassItem_ok ht).1 ⟨item, hi⟩ with ⟨c, hc, rfl⟩ | ⟨n, m, w, hn, hm, hle⟩ | ⟨n, hn, hnext⟩
      · exact .escape hc hrest
      · exact .range hn hm hle hrest
      · exact .unit hn hnext hrest
  · intro h
    have hitem : ∀ {t u v : List Char}, (∀ v, t ≠ ']' :: v) → (∃ l, readClassItem opened t = .ok (l, u)) →
        (∃ l, readClassItems opened u = .ok (l, v)) → ∃ l, readClassItems opened t = .ok (l, v) := by
      rintro t u v ht ⟨item, hi⟩ ⟨later, hr⟩
      exact ⟨_, (readClassItems_of_item ht hi).trans (map_eq_ok.2 ⟨_, hr, rfl⟩)⟩
    induction h with
    | close => exact ⟨[], by rw [readClassItems]⟩
    | @escape c t u hc _ ih =>
      have ht : ∀ v, '\\' :: c :: t ≠ ']' :: v := by simp
      exact hitem ht ((readClassItem_ok ht).2 (.inl ⟨_, hc, rfl⟩)) ih
    | range hn hm hle _ ih =>
      exact hitem hn.ne_bracket ((readClassItem_ok hn.ne_bracket).2 (.inr (.inl ⟨_, _, _, hn, hm, hle⟩))) ih
    | unit hn hnext _ ih =>
      exact hitem hn.ne_bracket ((readClassItem_ok hn.ne_bracket).2 (.inr (.inr ⟨_, hn, hnext⟩))) ih

theorem readClassBody_ok {negated : Bool} :
    (∃ p, readClassBody options opened negated t = .ok (p, u)) ↔ ClassItems t u := by
  rw [← readClassItems_ok, readClassBody]
  cases readClassItems opened t with
  | error fault => simp
  | ok read =>
    obtain ⟨l, v⟩ := read
    simp

/-- A class is read as in the grammar. -/
theorem readClass_ok : (∃ p, readClass options t = .ok (p, u)) ↔ Class t u := by
  constructor
  · intro h
    unfold readClass at h
    split at h
    · exact .negated (readClassBody_ok.1 h)
    · rename_i hno
      exact .listed hno (readClassBody_ok.1 h)
  · intro h
    cases h with
    | listed hno h =>
      rw [readClass]
      · exact readClassBody_ok.2 h
      · exact hno
    | negated h =>
      rw [readClass]
      exact readClassBody_ok.2 h

theorem Grammar.Class.length_lt (h : Class t u) : u.length < t.length := by
  obtain ⟨p, hp⟩ := (@readClass_ok t u default).2 h
  exact length_readClass hp

end

namespace Quantifier

variable {opened digits : List Char} {field : Option Nat} {fields : List (Option Nat)} {q : Quantifier} {k : Nat}

theorem takeWhile_digits {rest : List Char} (hd : ∀ c ∈ digits, c.isDigit = true) (hc : c.isDigit = false) :
    (digits ++ c :: rest).takeWhile Char.isDigit = digits ∧
      (digits ++ c :: rest).dropWhile Char.isDigit = c :: rest := by
  rw [List.takeWhile_append_of_pos hd, List.dropWhile_append_of_pos hd]
  simp [hc]

theorem count_eq_none : count digits = .ok none ↔ digits = [] := by
  unfold count
  split
  · simp_all
  · dsimp only
    split
    · simp_all
    · split <;> simp_all

theorem count_eq_some : count digits = .ok (some n) ↔
    digits ≠ [] ∧ Text.decimalValue digits = n ∧ n ≤ 1000 := by
  unfold count maxRepeat UInt32.size
  split
  · simp_all
  · rename_i hne
    rw [and_iff_right (by simpa using hne)]
    dsimp only
    split
    · refine ⟨nofun, ?_⟩
      rintro ⟨rfl, hle⟩
      omega
    · split
      · refine ⟨nofun, ?_⟩
        rintro ⟨rfl, hle⟩
        omega
      · rw [Except.ok.injEq, Option.some.injEq]
        refine ⟨fun h => ⟨h, by omega⟩, And.left⟩

/-- What stands between two commas: a number or nothing. -/
def Field (t : List Char) : Option Nat → List Char → Prop
  | none, u => t = u
  | some n, u => Number t n u

/-- In front of a character that is not a digit, a field is what the run of digits says. -/
theorem field_iff (hc : c.isDigit = false) : Field t field (c :: u) ↔
    count (t.takeWhile Char.isDigit) = .ok field ∧ t.dropWhile Char.isDigit = c :: u := by
  have hsplit : t = t.takeWhile Char.isDigit ++ t.dropWhile Char.isDigit := List.takeWhile_append_dropWhile.symm
  cases field with
  | none =>
    rw [Field, count_eq_none]
    constructor
    · rintro rfl
      simpa using @takeWhile_digits c [] u (by simp) hc
    · rintro ⟨htake, hdrop⟩
      rw [hsplit, htake, hdrop, List.nil_append]
  | some n =>
    rw [Field, count_eq_some]
    constructor
    · intro h
      cases h with
      | decimal hne hd hle =>
        obtain ⟨htake, hdrop⟩ := takeWhile_digits hd hc
        rw [htake, hdrop]
        exact ⟨⟨hne, rfl, hle⟩, rfl⟩
    · rintro ⟨⟨hne, rfl, hle⟩, hdrop⟩
      rw [hdrop] at hsplit
      have hnumber := Number.decimal (t := c :: u) hne (List.all_eq_true.1 List.all_takeWhile) hle
      rwa [← hsplit] at hnumber

/-- Fields with commas between them and a closing brace behind them. -/
inductive Fields : List Char → List (Option Nat) → List Char → Prop
  | last {t u : List Char} {field : Option Nat} : Field t field ('\x7d' :: u) → Fields t [field] u
  | more {t u v : List Char} {field : Option Nat} {fields : List (Option Nat)} :
      Field t field (',' :: u) → Fields u fields v → Fields t (field :: fields) v

theorem readCounts_eq_ok : readCounts opened t = .ok (fields, u) ↔ Fields t fields u := by
  constructor
  · intro h
    fun_induction readCounts opened t generalizing fields u with
    | case1 => cases h
    | case2 t field hcount v hdrop _ ih =>
      obtain ⟨⟨later, rest⟩, hr, heq⟩ := map_eq_ok.1 h
      cases heq
      exact .more ((field_iff (by decide)).2 ⟨hcount, hdrop⟩) (ih hr)
    | case3 t field hcount v hdrop =>
      cases h
      exact .last ((field_iff (by decide)).2 ⟨hcount, hdrop⟩)
    | case4 => cases h
  · intro h
    induction h with
    | last h =>
      obtain ⟨hcount, hdrop⟩ := (field_iff (by decide)).1 h
      rw [readCounts, hcount]
      dsimp only
      split
      case h_1 hrest => cases hdrop.symm.trans hrest
      case h_2 hrest =>
        cases hdrop.symm.trans hrest
        rfl
      case h_3 hno => exact (hno _ hdrop).elim
    | more h _ ih =>
      obtain ⟨hcount, hdrop⟩ := (field_iff (by decide)).1 h
      rw [readCounts, hcount]
      dsimp only
      split
      case h_1 hrest =>
        cases hdrop.symm.trans hrest
        exact map_eq_ok.2 ⟨_, ih, rfl⟩
      case h_2 hrest => cases hdrop.symm.trans hrest
      case h_3 hno _ => exact (hno _ hdrop).elim

/-- The counts that a quantifier may have. -/
inductive Admitted : List (Option Nat) → Prop
  | exactly {n : Nat} : Admitted [some n]
  | atLeast {n : Nat} : Admitted [some n, none]
  | between {n m : Nat} : n ≤ m → Admitted [some n, some m]
  | among {fields : List (Option Nat)} : 3 ≤ fields.length → (∀ field ∈ fields, field.isSome = true) →
      Admitted fields

theorem policy_readPolicy (t : List Char) : Policy t (readPolicy t).2 := by
  unfold readPolicy
  split
  · exact .limiting
  · exact .extending
  · exact .plain

theorem of_ofCounts (h : ofCounts fields u = .ok (q, v)) : Admitted fields ∧ Policy u v := by
  unfold ofCounts at h
  split at h
  · cases h
    exact ⟨.exactly, .plain⟩
  · cases h
    exact ⟨.atLeast, policy_readPolicy u⟩
  · split at h
    · rename_i hle
      cases h
      exact ⟨.between hle, .plain⟩
    · exact nomatch h
  · split at h
    · rename_i hmany
      cases h
      rw [Bool.and_eq_true, decide_eq_true_eq, List.all_eq_true] at hmany
      exact ⟨.among hmany.1 hmany.2, .plain⟩
    · exact nomatch h

theorem exists_ofCounts (h : Admitted fields) (u : List Char) : ∃ q v, ofCounts fields u = .ok (q, v) := by
  cases h with
  | exactly => exact ⟨_, _, rfl⟩
  | atLeast => exact ⟨_, _, rfl⟩
  | between hle => exact ⟨_, _, if_pos hle⟩
  | among hlength hsome =>
    match fields, hlength with
    | some _ :: some _ :: _ :: _, _ =>
      exact ⟨_, _, if_pos (by simpa using hsome)⟩
    | none :: _, _ => simp at hsome
    | some _ :: none :: _, _ => simp at hsome

theorem exists_fields (h : Numbers t k ('\x7d' :: u)) : ∃ fields, Fields t fields u ∧ fields.length = k ∧
    ∀ field ∈ fields, field.isSome = true := by
  generalize hv : '\x7d' :: u = v at h
  induction h with
  | one h => exact ⟨[some _], .last (hv ▸ h), rfl, by simp⟩
  | more h _ ih =>
    obtain ⟨fields, hfields, hlength, hsome⟩ := ih hv
    exact ⟨some _ :: fields, .more h hfields, congrArg (· + 1) hlength, List.forall_mem_cons.2 ⟨rfl, hsome⟩⟩

theorem Fields.numbers (h : Fields t fields u) (hsome : ∀ field ∈ fields, field.isSome = true) :
    Numbers t fields.length ('\x7d' :: u) := by
  induction h with
  | last h =>
    obtain ⟨n, rfl⟩ := Option.isSome_iff_exists.1 (hsome _ List.mem_cons_self)
    exact .one h
  | more h _ ih =>
    obtain ⟨hfirst, hlater⟩ := List.forall_mem_cons.1 hsome
    obtain ⟨n, rfl⟩ := Option.isSome_iff_exists.1 hfirst
    exact .more h (ih hlater)

/-- The counts of the grammar are the fields that a quantifier admits. -/
theorem counts_iff : Counts t ('\x7d' :: u) ↔ ∃ fields, Fields t fields u ∧ Admitted fields := by
  constructor
  · intro h
    cases h with
    | exactly h => exact ⟨[some _], .last h, .exactly⟩
    | atLeast h => exact ⟨[some _, none], .more h (.last rfl), .atLeast⟩
    | between h h' hle => exact ⟨[some _, some _], .more h (.last h'), .between hle⟩
    | among h hk =>
      obtain ⟨fields, hfields, rfl, hsome⟩ := exists_fields h
      exact ⟨fields, hfields, .among hk hsome⟩
  · rintro ⟨fields, hfields, hadmitted⟩
    cases hadmitted with
    | exactly =>
      cases hfields with
      | last h => exact .exactly h
      | more _ h => exact nomatch h
    | atLeast =>
      cases hfields with
      | more h h' =>
        cases h' with
        | last h' => 
          cases h'
          exact .atLeast h
        | more _ h' => exact nomatch h'
    | between hle =>
      cases hfields with
      | more h h' =>
        cases h' with
        | last h' => exact .between h h' hle
        | more _ h' => exact nomatch h'
    | among hlength hsome => exact .among (hfields.numbers hsome) hlength

theorem length_lt_of_counts (h : Counts t ('\x7d' :: u)) : u.length < t.length := by
  obtain ⟨fields, hfields, -⟩ := counts_iff.1 h
  exact length_readCounts ((@readCounts_eq_ok t u []).2 hfields)

/-- What stands between braces is read as in the grammar, up to the mark behind it. -/
theorem of_readBraced (h : readBraced t = .ok (q, v)) : ∃ u, Counts t ('\x7d' :: u) ∧ Policy u v := by
  unfold readBraced at h
  split at h
  · exact nomatch h
  · rename_i fields u hread
    split at h
    · exact nomatch h
    · rename_i hq
      cases h
      obtain ⟨hadmitted, hpolicy⟩ := of_ofCounts hq
      exact ⟨u, counts_iff.2 ⟨fields, readCounts_eq_ok.1 hread, hadmitted⟩, hpolicy⟩

theorem exists_readBraced (h : Counts t ('\x7d' :: u)) : ∃ q v, readBraced t = .ok (q, v) ∧ Policy u v := by
  obtain ⟨fields, hfields, hadmitted⟩ := counts_iff.1 h
  obtain ⟨q, v, hq⟩ := exists_ofCounts hadmitted u
  refine ⟨q, v, ?_, (of_ofCounts hq).2⟩
  rw [readBraced, readCounts_eq_ok.2 hfields]
  simp only [hq]

end Quantifier

end Polymatch.Pattern
