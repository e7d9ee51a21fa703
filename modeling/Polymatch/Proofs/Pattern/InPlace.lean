import Polymatch.Pattern.InPlace
import Polymatch.Proofs.Pattern.Reading

/-! # Reading patterns in place agrees

Reader by reader, a pattern text is read in place as it is read from what is left of it:
the offset stays a place of the text, and so do the offsets at which open constructs
start. Hence every slice is cut, and every fault lies at a place.
-/

namespace Polymatch.Pattern

open Text (At Agree Same byteSize)

variable {text cs opened : List Char} {c : Char} {pos start item n : Nat} {options : ParseOptions}

/-! ## Escapes -/

theorem lt_of_hexValue? {digits : List Char} (h : InPlace.hexValue? digits = some n) : ∀ c ∈ digits, c.toNat < 128 := by
  have hfrom {digits : List Char} {m : Nat}
      (h : digits.foldlM (fun n c => (16 * n + ·) <$> Escape.hexDigit? c) m = some n) :
      ∀ c ∈ digits, c.toNat < 128 := by
    induction digits generalizing m with
    | nil => exact fun c hc => nomatch hc
    | cons d digits ih =>
      rw [List.foldlM_cons] at h
      obtain ⟨k, hk, hrest⟩ := Option.bind_eq_some_iff.1 h
      obtain ⟨value, hvalue, -⟩ := Option.map_eq_some_iff.1 hk
      exact List.forall_mem_cons.2 ⟨Escape.lt_of_hexDigit? hvalue, ih hrest⟩
  exact hfrom h

theorem hexValue?_four (a b c d : Char) : InPlace.hexValue? [a, b, c, d] = Escape.unitOfHex? a b c d := by
  simp only [InPlace.hexValue?, Escape.unitOfHex?, List.foldlM_cons, List.foldlM_nil]
  cases Escape.hexDigit? a <;> cases Escape.hexDigit? b <;> cases Escape.hexDigit? c <;>
    cases Escape.hexDigit? d <;> simp
  omega

/-- What does not start with four hexadecimal digits is no escape of a number. -/
theorem Escape.read_of_not_hex
    (h : ∀ a b c d rest n, cs = a :: b :: c :: d :: rest → Escape.unitOfHex? a b c d ≠ some n) :
    Escape.read ('u' :: cs) = .error .invalidUnicodeEscape := by
  match cs with
  | [] | [_] | [_, _] | [_, _, _] => rfl
  | a :: b :: c :: d :: rest =>
    rw [Escape.read]
    cases hunit : Escape.unitOfHex? a b c d with
    | some n => exact (h a b c d rest n rfl hunit).elim
    | none => rfl

theorem byteSize_hex {a b c d : Char} (h : Escape.unitOfHex? a b c d = some n) : byteSize [a, b, c, d] = 4 :=
  Text.byteSize_eq_length (lt_of_hexValue? ((hexValue?_four a b c d).trans h))

/-- Four bytes are a number in hexadecimal if four characters are. -/
theorem hexValue?_slice (h : At text pos cs) :
    (Text.slice text pos (pos + 4)).toOption.bind InPlace.hexValue? = some n ↔
      ∃ a b c d rest, cs = a :: b :: c :: d :: rest ∧ Escape.unitOfHex? a b c d = some n := by
  constructor
  · intro hn
    obtain ⟨front, hfront, hvalue⟩ := Option.bind_eq_some_iff.1 hn
    cases hslice : Text.slice text pos (pos + 4) with
    | error halt => exact nomatch hslice ▸ hfront
    | ok digits =>
      cases (congrArg Except.toOption hslice).symm.trans hfront
      obtain ⟨rest, rfl, hsize⟩ := h.of_slice hslice
      -- no digit has two bytes, so the four bytes are four characters
      rw [Text.byteSize_eq_length (lt_of_hexValue? hvalue)] at hsize
      match front, hsize with
      | [a, b, c, d], _ => exact ⟨a, b, c, d, rest, rfl, (hexValue?_four a b c d).symm.trans hvalue⟩
  · rintro ⟨a, b, c, d, rest, rfl, hn⟩
    have hslice : Text.slice text pos (pos + byteSize [a, b, c, d]) = .ok [a, b, c, d] := h.slice
    rw [byteSize_hex hn] at hslice
    rw [hslice]
    exact (hexValue?_four a b c d).trans hn

theorem agree_readEscape (h : At text pos cs) (hslash : At text (pos - 1) ('\\' :: cs)) :
    Agree text (Same text) (InPlace.readEscape text pos)
      ((Escape.read cs).mapError fun kind => ⟨'\\' :: cs, kind⟩) := by
  rw [InPlace.readEscape]
  cases cs with
  | nil =>
    rw [h.bump_nil]
    exact .fault hslash
  | cons c cs =>
    have hnext := h.next
    rw [h.bump_cons]
    dsimp only
    split
    · rename_i hu
      subst hu
      split
      · rename_i u hhex
        obtain ⟨a, b, c, d, rest, rfl, hunit⟩ := (hexValue?_slice hnext).1 hhex
        have hbehind : At text (pos + 'u'.utf8Size + byteSize [a, b, c, d]) rest := hnext.forward
        rw [byteSize_hex hunit] at hbehind
        simp only [Escape.read, hunit]
        exact .ok ⟨rfl, hbehind⟩
      · rename_i hnone
        have hread : Escape.read ('u' :: cs) = .error .invalidUnicodeEscape := by
          refine Escape.read_of_not_hex fun a b c d rest n hcs hunit => ?_
          cases hnone.symm.trans ((hexValue?_slice hnext).2 ⟨a, b, c, d, rest, hcs, hunit⟩)
        rw [hread]
        exact .fault hslash
    · rename_i hu
      rw [Escape.read_cons hu]
      cases Escape.named? c with
      | some e => exact .ok ⟨rfl, hnext⟩
      | none =>
        dsimp only
        split
        · exact .ok ⟨rfl, hnext⟩
        · exact .fault hslash

/-! ## Classes -/

theorem readClassAtom_backslash (opened cs : List Char) :
    readClassAtom opened ('\\' :: cs) = (Escape.read cs).mapError fun kind => ⟨'\\' :: cs, kind⟩ := by
  rw [readClassAtom]
  cases Escape.read cs <;> rfl

theorem agree_readClassAtom (opened : List Char) (h : At text pos (c :: cs)) :
    Agree text (Same text) (InPlace.readClassAtom text pos c (pos + c.utf8Size)) (readClassAtom opened (c :: cs)) := by
  rw [InPlace.readClassAtom]
  split
  · rename_i hc
    subst hc
    rw [readClassAtom_backslash]
    exact agree_readEscape h.next h
  · rename_i hc
    rw [readClassAtom]
    · split
      · exact .ok ⟨rfl, h.next⟩
      · exact .fault h
    · exact hc

theorem agree_readRangeEnd (hopened : At text start opened) {itemText : List Char} (hitem : At text item itemText)
    (h : At text pos cs) (lo : Nat) :
    Agree text (Same text) (InPlace.readRangeEnd text start item lo pos) (readRangeEnd opened itemText lo cs) := by
  rw [InPlace.readRangeEnd, readRangeEnd]
  cases cs with
  | nil =>
    rw [h.bump_nil]
    exact .fault hopened
  | cons c cs =>
    rw [h.bump_cons]
    dsimp only
    obtain ⟨e, behind, rest, hx, hy, hrest⟩ | ⟨offset, rest, kind, hx, hy, hrest⟩ :=
      (agree_readClassAtom opened h).ok_or_fault
    · rw [hx, hy]
      cases e with
      | ranges l => exact .fault hitem
      | unit hi =>
        dsimp only
        split
        · exact .fault hitem
        · exact .ok ⟨rfl, hrest⟩
    · rw [hx, hy]
      exact .fault hrest

theorem startsRange_hyphen (c : Char) (rest : List Char) :
    InPlace.startsRange ('-' :: c :: rest) = true ↔ c ≠ ']' := by
  have hsize : 1 < byteSize ('-' :: c :: rest) := Nat.lt_add_of_pos_right Text.byteSize_pos
  rw [InPlace.startsRange, decide_eq_true hsize, Bool.and_true]
  simp only [List.isPrefixOf, Bool.and_true, BEq.rfl, Bool.true_and, Bool.not_eq_true', beq_eq_false_iff_ne]
  exact ne_comm

theorem of_startsRange (h : InPlace.startsRange cs = true) : ∃ c rest, cs = '-' :: c :: rest := by
  cases cs with
  | nil => exact absurd h (by decide)
  | cons d rest =>
    by_cases hd : d = '-'
    · subst hd
      cases rest with
      | nil => exact absurd h (by decide)
      | cons c rest => exact ⟨c, rest, rfl⟩
    · rw [InPlace.startsRange, List.isPrefixOf, beq_eq_false_iff_ne.2 (Ne.symm hd)] at h
      exact absurd h Bool.false_ne_true

/-- A class goes on behind a unit as the hyphen behind it decides. -/
theorem readClassItem_unit {lo : Nat} {rest : List Char}
    (hatom : readClassAtom opened cs = .ok (.unit lo, rest)) :
    readClassItem opened cs =
      if InPlace.startsRange rest then (fun (i, rest) => ([i], rest)) <$> readRangeEnd opened cs lo rest.tail
      else .ok ([.single lo], rest) := by
  rw [readClassItem, hatom]
  split
  · cases ‹_ = _›
  · cases ‹_ = _›
  · rename_i heq
    cases heq
    simp only [startsRange_hyphen, ite_not]
    rfl
  · rename_i hne heq
    cases heq
    rw [if_neg]
    intro hrange
    obtain ⟨c, rest, rfl⟩ := of_startsRange hrange
    exact hne c rest rfl

theorem agree_readClassItem (hopened : At text start opened) (h : At text item (c :: cs)) :
    Agree text (Same text) (InPlace.readClassItem text start item c (item + c.utf8Size))
      (readClassItem opened (c :: cs)) := by
  rw [InPlace.readClassItem]
  obtain ⟨e, behind, rest, hx, hy, hrest⟩ | ⟨offset, rest, kind, hx, hy, hrest⟩ :=
    (agree_readClassAtom opened h).ok_or_fault
  · rw [hx]
    dsimp only at hrest hy ⊢
    cases e with
    | ranges l =>
      rw [readClassItem, hy]
      exact .ok ⟨rfl, hrest⟩
    | unit lo =>
      rw [readClassItem_unit hy]
      dsimp only
      rw [hrest.sliceFrom]
      dsimp only
      split
      · rename_i hrange
        obtain ⟨d, others, rfl⟩ := of_startsRange hrange
        exact (agree_readRangeEnd hopened h hrest.next lo).map fun a b hab => ⟨congrArg (fun i => [i]) hab.1, hab.2⟩
      · exact .ok ⟨rfl, hrest⟩
  · rw [hx, readClassItem, hy]
    exact .fault hrest

theorem readClassItems_nil (h : At text pos []) :
    InPlace.readClassItems text start pos = .error (.fault start .unclosedClass) := by
  rw [InPlace.readClassItems]
  split <;> cases h.bump_nil.symm.trans ‹_ = _›
  rfl

theorem readClassItems_cons (h : At text pos (c :: cs)) :
    InPlace.readClassItems text start pos =
      if c = ']' then .ok ([], pos + c.utf8Size)
      else
        match InPlace.readClassItem text start pos c (pos + c.utf8Size) with
        | .error halt => .error halt
        | .ok (l, behind) => (fun (later, stop) => (l ++ later, stop)) <$> InPlace.readClassItems text start behind := by
  rw [InPlace.readClassItems]
  split <;> cases h.bump_cons.symm.trans ‹_ = _›
  split
  · rfl
  · split <;> rename_i hitem <;> simp only [hitem]

theorem agree_readClassItems (hopened : At text start opened) (h : At text pos cs) :
    Agree text (Same text) (InPlace.readClassItems text start pos) (readClassItems opened cs) := by
  fun_induction readClassItems opened cs generalizing pos with
  | case1 rest =>
    rw [readClassItems_cons h, if_pos rfl]
    exact .ok ⟨rfl, h.next⟩
  | case2 cs hcs fault hitem =>
    cases cs with
    | nil =>
      cases hitem
      rw [readClassItems_nil h]
      exact .fault hopened
    | cons c cs =>
      rw [readClassItems_cons h, if_neg fun hc => hcs cs (congrArg (· :: cs) hc)]
      have hagree := agree_readClassItem hopened h
      rw [hitem] at hagree
      obtain ⟨offset, hx, hrest⟩ := hagree.of_fault
      rw [hx]
      exact .fault hrest
  | case3 cs hcs l rest hitem hlt ih =>
    cases cs with
    | nil => cases hitem
    | cons c cs =>
      rw [readClassItems_cons h, if_neg fun hc => hcs cs (congrArg (· :: cs) hc)]
      have hagree := agree_readClassItem hopened h
      rw [hitem] at hagree
      obtain ⟨behind, hx, hrest⟩ := hagree.of_ok
      rw [hx]
      exact (ih hrest).map fun a b hab => ⟨congrArg (l ++ ·) hab.1, hab.2⟩

theorem agree_readClassBody {negated : Bool} (hopened : At text start opened) (h : At text pos cs) :
    Agree text (Same text)
      ((fun (l, stop) => (symbols (classRanges options negated l), stop)) <$> InPlace.readClassItems text start pos)
      (readClassBody options opened negated cs) := by
  rw [readClassBody]
  obtain ⟨l, stop, rest, hx, hy, hrest⟩ | ⟨offset, rest, kind, hx, hy, hrest⟩ :=
    (agree_readClassItems hopened h).ok_or_fault
  · rw [hx, hy]
    exact .ok ⟨rfl, hrest⟩
  · rw [hx, hy]
    exact .fault hrest

theorem agree_readClass (hstart : At text start ('[' :: cs)) (h : At text pos cs) :
    Agree text (Same text) (InPlace.readClass options text start pos) (readClass options cs) := by
  rw [InPlace.readClass, h.eat]
  by_cases hhead : cs.head? = some '^'
  · rw [if_pos hhead]
    obtain ⟨rest, rfl⟩ := List.head?_eq_some_iff.1 hhead
    exact agree_readClassBody hstart h.next
  · rw [if_neg hhead, readClass]
    · exact agree_readClassBody hstart h
    · rintro rest rfl
      exact hhead rfl

/-! ## Quantifiers -/

/-- Digits are as many bytes as characters. -/
theorem at_dropDigits (h : At text pos cs) :
    At text (pos + (cs.takeWhile Char.isDigit).length) (cs.dropWhile Char.isDigit) ∧
      Text.slice text pos (pos + (cs.takeWhile Char.isDigit).length) = .ok (cs.takeWhile Char.isDigit) := by
  rw [← List.takeWhile_append_dropWhile (p := Char.isDigit) (l := cs)] at h
  rw [← Text.byteSize_eq_length fun c hc => Text.lt_of_isDigit (List.all_eq_true.1 List.all_takeWhile c hc)]
  exact ⟨h.forward, h.slice⟩

theorem skipDigits_eq (h : At text pos cs) :
    InPlace.skipDigits text pos = .ok (pos + (cs.takeWhile Char.isDigit).length) := by
  induction cs generalizing pos with
  | nil =>
    rw [InPlace.skipDigits]
    split <;> cases h.peek.symm.trans ‹_ = _›
    rfl
  | cons c cs ih =>
    rw [InPlace.skipDigits]
    split <;> cases h.peek.symm.trans ‹_ = _›
    dsimp only
    split
    · rename_i hdigit
      have hnext := h.next
      rw [Text.utf8Size_eq_one (Text.lt_of_isDigit hdigit)] at hnext
      rw [ih hnext, List.takeWhile_cons_of_pos hdigit, List.length_cons, Nat.add_assoc, Nat.add_comm 1]
    · rename_i hdigit
      rw [List.takeWhile_cons_of_neg hdigit]
      rfl

theorem readCounts_eq (h : At text pos cs) : InPlace.readCounts text start pos =
    match Quantifier.count (cs.takeWhile Char.isDigit) with
    | .error kind => .error (.fault pos kind)
    | .ok value =>
      match cs.dropWhile Char.isDigit with
      | ',' :: _ =>
        (fun (later, behind) => (value :: later, behind)) <$>
          InPlace.readCounts text start (pos + (cs.takeWhile Char.isDigit).length + 1)
      | '\x7d' :: _ => .ok ([value], pos + (cs.takeWhile Char.isDigit).length + 1)
      | _ => .error (.fault start (.invalidQuantifier .separatorExpected)) := by
  obtain ⟨hbehind, hslice⟩ := at_dropDigits h
  rw [InPlace.readCounts]
  split <;> cases (skipDigits_eq h).symm.trans ‹_ = _›
  rw [hslice]
  dsimp only
  cases Quantifier.count (cs.takeWhile Char.isDigit) with
  | error kind => rfl
  | ok value =>
    dsimp only
    generalize cs.dropWhile Char.isDigit = rest at hbehind
    cases rest with
    | nil =>
      split
      · cases hbehind.bump_nil.symm.trans ‹_ = _›
      · cases hbehind.bump_nil.symm.trans ‹_ = _›
      · cases hbehind.bump_nil.symm.trans ‹_ = _›
      · rfl
    | cons c rest =>
      split
      · cases hbehind.bump_cons.symm.trans ‹_ = _›
      · cases hbehind.bump_cons.symm.trans ‹_ = _›
        rfl
      · cases hbehind.bump_cons.symm.trans ‹_ = _›
        rfl
      · rename_i hcomma hbrace hbump
        cases hbehind.bump_cons.symm.trans hbump
        split
        · rename_i heq
          cases heq
          exact (hcomma _ rfl).elim
        · rename_i heq
          cases heq
          exact (hbrace _ rfl).elim
        · rfl

theorem agree_readCounts (hopened : At text start opened) (h : At text pos cs) :
    Agree text (Same text) (InPlace.readCounts text start pos) (Quantifier.readCounts opened cs) := by
  fun_induction Quantifier.readCounts opened cs generalizing pos with
  | case1 cs kind hcount =>
    rw [readCounts_eq h, hcount]
    exact .fault h
  | case2 cs value hcount rest hrest hlt ih =>
    have hbehind := (at_dropDigits h).1
    rw [hrest] at hbehind
    rw [readCounts_eq h, hcount, hrest]
    exact (ih hbehind.next).map fun a b hab => ⟨congrArg (value :: ·) hab.1, hab.2⟩
  | case3 cs value hcount rest hrest =>
    have hbehind := (at_dropDigits h).1
    rw [hrest] at hbehind
    rw [readCounts_eq h, hcount, hrest]
    exact .ok ⟨rfl, hbehind.next⟩
  | case4 cs value hcount hcomma hbrace =>
    rw [readCounts_eq h, hcount]
    dsimp only
    split
    · exact (hcomma _ ‹_›).elim
    · exact (hbrace _ ‹_›).elim
    · exact .fault hopened

theorem readPolicy_eq (h : At text pos cs) : ∃ next,
    InPlace.readPolicy text pos = .ok ((Quantifier.readPolicy cs).1, next) ∧ At text next (Quantifier.readPolicy cs).2 := by
  rw [InPlace.readPolicy, h.eat, h.eat]
  by_cases hlimiting : cs.head? = some '!'
  · obtain ⟨rest, rfl⟩ := List.head?_eq_some_iff.1 hlimiting
    exact ⟨_, rfl, h.next⟩
  · by_cases hextending : cs.head? = some '^'
    · obtain ⟨rest, rfl⟩ := List.head?_eq_some_iff.1 hextending
      exact ⟨_, rfl, h.next⟩
    · rw [if_neg hlimiting, if_neg hextending, Quantifier.readPolicy]
      · exact ⟨_, rfl, h⟩
      · rintro rest rfl
        exact hlimiting rfl
      · rintro rest rfl
        exact hextending rfl

theorem agree_ofCounts (hopened : At text start opened) (h : At text pos cs) (values : List (Option Nat)) :
    Agree text (Same text) (InPlace.ofCounts text start values pos)
      ((Quantifier.ofCounts values cs).mapError fun fault => ⟨opened, .invalidQuantifier fault⟩) := by
  unfold InPlace.ofCounts Quantifier.ofCounts
  split
  · exact .ok ⟨rfl, h⟩
  · obtain ⟨next, hpolicy, hnext⟩ := readPolicy_eq h
    rw [hpolicy]
    exact .ok ⟨rfl, hnext⟩
  · rename_i min max
    by_cases hle : min ≤ max
    · simp only [if_pos hle]
      exact .ok ⟨rfl, h⟩
    · simp only [if_neg hle]
      exact .fault hopened
  · rename_i hone hloop hrange
    by_cases hall : (decide (2 < values.length) && values.all Option.isSome) = true
    · simp only [if_pos hall]
      exact .ok ⟨rfl, h⟩
    · simp only [if_neg hall]
      exact .fault hopened

theorem agree_readBraced (h : At text start ('\x7b' :: cs)) :
    Agree text (Same text)
      (match InPlace.readCounts text start (start + '\x7b'.utf8Size) with
        | .error halt => .error halt
        | .ok (values, behind) => InPlace.ofCounts text start values behind)
      (Quantifier.readBraced cs) := by
  rw [Quantifier.readBraced]
  obtain ⟨values, behind, rest, hx, hy, hrest⟩ | ⟨offset, rest, kind, hx, hy, hrest⟩ :=
    (agree_readCounts h h.next).ok_or_fault
  · have hcounts := agree_ofCounts h hrest values
    rw [hx, hy]
    dsimp only
    cases hread : Quantifier.ofCounts values rest <;> rw [hread] at hcounts <;> exact hcounts
  · rw [hx, hy]
    exact .fault hrest

/-- A quantifier is read in place as the token is. -/
theorem agree_readQuantifier (options : ParseOptions) (hc : c = '?' ∨ c = '*' ∨ c = '+' ∨ c = '\x7b')
    (h : At text start (c :: cs)) :
    ∃ read, Token.read options c cs = Token.ofRead .quantifier .badQuantifier read ∧
      Agree text (Same text) (InPlace.readQuantifier text start c (start + c.utf8Size)) read := by
  obtain ⟨next, hpolicy, hnext⟩ := readPolicy_eq h.next
  obtain rfl | rfl | rfl | rfl := hc
  · exact ⟨.ok (.optional, cs), rfl, .ok ⟨rfl, h.next⟩⟩
  · refine ⟨.ok (.loop 0 (Quantifier.readPolicy cs).1, (Quantifier.readPolicy cs).2), rfl, ?_⟩
    rw [InPlace.readQuantifier, if_neg (by decide), if_pos rfl, hpolicy]
    exact .ok ⟨rfl, hnext⟩
  · refine ⟨.ok (.loop 1 (Quantifier.readPolicy cs).1, (Quantifier.readPolicy cs).2), rfl, ?_⟩
    rw [InPlace.readQuantifier, if_neg (by decide), if_neg (by decide), if_pos rfl, hpolicy]
    exact .ok ⟨rfl, hnext⟩
  · refine ⟨Quantifier.readBraced cs, rfl, ?_⟩
    rw [InPlace.readQuantifier, if_neg (by decide), if_neg (by decide), if_neg (by decide)]
    exact agree_readBraced h

end Polymatch.Pattern
