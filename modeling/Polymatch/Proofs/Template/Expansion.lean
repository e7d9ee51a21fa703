import Mathlib.Data.List.Fold
import Mathlib.Data.String.Basic
import Polymatch.Proofs.Pattern.Reading
import Polymatch.Template

/-! # Expanding templates

What a template text is, token by token: texts side by side have their tokens side by
side, and a backslash in front of every character leaves nothing but characters. A
template expands to what its tokens expand to, wherever literals are cut.
-/

namespace Polymatch.Template

variable {cs ds : List Char} {ts us : List Token} {input : List Nat} {captured : Captured}

/-- The text has these tokens. -/
inductive Reads : List Char → List Token → Prop
  | nil : Reads [] []
  | escape {c : Char} {cs : List Char} {ts : List Token} : Reads cs ts → Reads ('\\' :: c :: cs) (.char c :: ts)
  | reference {digits cs : List Char} {group : Nat} {ts : List Token} : ']' ∉ digits →
      groupNumber digits = .ok group → Reads cs ts → Reads ('[' :: (digits ++ ']' :: cs)) (.reference group :: ts)
  | char {c : Char} {cs : List Char} {ts : List Token} : c ≠ '\\' → c ≠ '[' → Reads cs ts →
      Reads (c :: cs) (.char c :: ts)

/-! ## Brackets -/

theorem span_close {digits : List Char} (h : ']' ∉ digits) (cs : List Char) :
    (digits ++ ']' :: cs).takeWhile (· ≠ ']') = digits ∧
      (digits ++ ']' :: cs).dropWhile (· ≠ ']') = ']' :: cs := by
  have hall : ∀ c ∈ digits, decide (c ≠ ']') = true := fun c hc => decide_eq_true fun heq => h (heq ▸ hc)
  constructor
  · rw [List.takeWhile_append_of_pos hall]
    exact List.append_nil digits
  · rw [List.dropWhile_append_of_pos hall]
    rfl

/-- The text is closed by the first closing bracket of it. -/
theorem exists_close {c : Char} (h : cs.dropWhile (· ≠ ']') = c :: ds) :
    ']' ∉ cs.takeWhile (· ≠ ']') ∧ cs = cs.takeWhile (· ≠ ']') ++ ']' :: ds := by
  have hc : c = ']' := by
    have hnot := List.head?_dropWhile_not (fun c : Char => decide (c ≠ ']')) cs
    rw [h] at hnot
    simpa using hnot
  subst hc
  constructor
  · intro hmem
    have hne := List.all_eq_true.1 (List.all_takeWhile (p := fun c : Char => decide (c ≠ ']'))) _ hmem
    exact of_decide_eq_true hne rfl
  · rw [← h, List.takeWhile_append_dropWhile]

theorem tokens_reference {digits : List Char} (h : ']' ∉ digits) (cs : List Char) :
    tokens ('[' :: (digits ++ ']' :: cs)) =
      match groupNumber digits with
      | .error kind => .error ⟨'[' :: (digits ++ ']' :: cs), kind⟩
      | .ok group => (.reference group :: ·) <$> tokens cs := by
  obtain ⟨htake, hdrop⟩ := span_close h cs
  rw [tokens]
  split
  · rename_i hnil
    cases hnil.symm.trans hdrop
  · rename_i heq
    cases heq.symm.trans hdrop
    generalize (digits ++ ']' :: cs).takeWhile (· ≠ ']') = front at htake ⊢
    subst htake
    cases groupNumber front <;> rfl

theorem tokens_escape (c : Char) (cs : List Char) : tokens ('\\' :: c :: cs) = (.char c :: ·) <$> tokens cs := by
  rw [tokens]

theorem tokens_char {c : Char} (hslash : c ≠ '\\') (hopen : c ≠ '[') (cs : List Char) :
    tokens (c :: cs) = (.char c :: ·) <$> tokens cs := by
  rw [tokens]
  · exact fun h _ => hslash h
  · exact fun _ _ h _ => hslash h
  · exact hopen

theorem tokens_eq_ok : tokens cs = .ok ts ↔ Reads cs ts := by
  constructor
  · intro h
    fun_induction tokens cs generalizing ts with
    | case1 =>
      cases h
      exact .nil
    | case2 => exact nomatch h
    | case3 c rest ih =>
      obtain ⟨us, hus, rfl⟩ := map_eq_ok.1 h
      exact .escape (ih hus)
    | case4 rest hnone => exact nomatch h
    | case5 rest close behind hclose kind hg => exact nomatch h
    | case6 rest close behind hclose group hg _ ih =>
      obtain ⟨us, hus, rfl⟩ := map_eq_ok.1 h
      obtain ⟨hdigits, hrest⟩ := exists_close hclose
      rw [hrest]
      exact .reference hdigits hg (ih hus)
    | case7 c rest hend hescape hopen ih =>
      obtain ⟨us, hus, rfl⟩ := map_eq_ok.1 h
      refine .char (fun hc => ?_) hopen (ih hus)
      cases rest with
      | nil => exact hend hc rfl
      | cons d rest => exact hescape d rest hc rfl
  · intro h
    induction h with
    | nil => rw [tokens]
    | escape _ ih => rw [tokens_escape, ih]; rfl
    | reference hdigits hg _ ih => rw [tokens_reference hdigits, hg, ih]; rfl
    | char hslash hopen _ ih => rw [tokens_char hslash hopen, ih]; rfl

/-! ## Texts side by side -/

theorem Reads.append (h : Reads cs ts) (h' : Reads ds us) : Reads (cs ++ ds) (ts ++ us) := by
  induction h with
  | nil => exact h'
  | escape _ ih => exact .escape ih
  | @reference digits cs group ts hdigits hg _ ih =>
    rw [List.cons_append, List.append_assoc]
    exact .reference hdigits hg ih
  | char hslash hopen _ ih => exact .char hslash hopen ih

/-- The text with a backslash in front of every character. -/
def escaped (s : String) : String := String.ofList (s.toList.flatMap fun c => ['\\', c])

theorem reads_escaped (cs : List Char) : Reads (cs.flatMap fun c => ['\\', c]) (cs.map .char) := by
  induction cs with
  | nil => exact .nil
  | cons c cs ih => exact .escape ih

theorem parse_of_reads {text : String} (h : Reads text.toList ts) : parse text = .ok ⟨piecesOf ts⟩ := by
  rw [parse, tokens_eq_ok.2 h]

theorem reads_of_parse {text : String} {t : Template} (h : parse text = .ok t) :
    ∃ ts, Reads text.toList ts ∧ t = ⟨piecesOf ts⟩ := by
  rw [parse] at h
  cases htokens : tokens text.toList with
  | error fault => exact nomatch htokens ▸ h
  | ok ts =>
    rw [htokens] at h
    exact ⟨ts, tokens_eq_ok.1 htokens, (Except.ok.inj h).symm⟩

/-! ## Token by token -/

/-- What a token expands to. -/
def Token.expand (input : List Nat) (captured : Captured) : Token → List Char
  | char c => [c]
  | reference group => (expandPiece input captured (.group group)).toList

/-- The characters of what a piece expands to. -/
def pieceChars (input : List Nat) (captured : Captured) (piece : Piece) : List Char :=
  (expandPiece input captured piece).toList

theorem toList_expand (t : Template) :
    (t.expand input captured).toList = t.pieces.flatMap (pieceChars input captured) := by
  rw [Template.expand, String.toList_join, List.flatMap_map]
  rfl

theorem expand_prependChar (c : Char) (pieces : List Piece) :
    (prependChar c pieces).flatMap (pieceChars input captured) =
      c :: pieces.flatMap (pieceChars input captured) := by
  have hchar : pieceChars input captured (.literal (String.singleton c)) = [c] := String.toList_singleton c
  match pieces with
  | [] => rw [prependChar, List.flatMap_cons, hchar, List.singleton_append]; exact nofun
  | .group group :: rest => rw [prependChar, List.flatMap_cons, hchar, List.singleton_append]; exact nofun
  | .literal text :: rest =>
    have hjoined : pieceChars input captured (.literal (String.singleton c ++ text)) =
        c :: pieceChars input captured (.literal text) := by
      rw [pieceChars, expandPiece, String.toList_append, String.toList_singleton, List.singleton_append]
      rfl
    rw [prependChar, List.flatMap_cons, List.flatMap_cons, hjoined, List.cons_append]

theorem toList_expand_piecesOf (ts : List Token) :
    ((⟨piecesOf ts⟩ : Template).expand input captured).toList = ts.flatMap (Token.expand input captured) := by
  rw [toList_expand]
  induction ts with
  | nil => rfl
  | cons token ts ih =>
    cases token with
    | char c => rw [piecesOf, expand_prependChar, ih]; rfl
    | reference group => rw [piecesOf, List.flatMap_cons, ih]; rfl

/-- The group that a piece refers to; the whole match where there is none. -/
def referred : Piece → Nat
  | .literal _ => 0
  | .group n => n

/-- The group that a token refers to; the whole match where there is none. -/
def Token.referred : Token → Nat
  | char _ => 0
  | reference group => group

theorem maxGroup_eq (t : Template) : t.maxGroup = (t.pieces.map referred).foldr max 0 := by
  rw [← List.foldl_eq_foldr, maxGroup]
  refine congrArg (List.foldl max 0) (List.map_congr_left fun piece _ => ?_)
  cases piece <;> rfl

theorem maxGroup_prependChar (c : Char) (pieces : List Piece) :
    (⟨prependChar c pieces⟩ : Template).maxGroup = (⟨pieces⟩ : Template).maxGroup := by
  rw [maxGroup_eq, maxGroup_eq]
  match pieces with
  | [] => rfl
  | .group group :: rest => exact Nat.zero_max _
  | .literal text :: rest => rfl

theorem maxGroup_piecesOf (ts : List Token) :
    (⟨piecesOf ts⟩ : Template).maxGroup = (ts.map Token.referred).foldr max 0 := by
  induction ts with
  | nil => rfl
  | cons token ts ih =>
    cases token with
    | char c => rw [piecesOf, maxGroup_prependChar, ih]; exact (Nat.zero_max _).symm
    | reference group => rw [piecesOf, maxGroup_eq, List.map_cons, List.foldr_cons, ← maxGroup_eq ⟨piecesOf ts⟩, ih]; rfl

theorem foldr_max_append (l r : List Nat) : (l ++ r).foldr max 0 = max (l.foldr max 0) (r.foldr max 0) := by
  induction l with
  | nil => exact (Nat.zero_max _).symm
  | cons n l ih => rw [List.cons_append, List.foldr_cons, List.foldr_cons, ih, Nat.max_assoc]

/-- Texts that are templates are one side by side, which expands to what they expand to side by side;
a text with a backslash in front of every character is a template of just these characters. -/
theorem parse_append_and_escaped :
    (∀ {a b : String} {t u : Template}, parse a = .ok t → parse b = .ok u →
      ∃ v, parse (a ++ b) = .ok v ∧
        (∀ input captured, v.expand input captured = t.expand input captured ++ u.expand input captured) ∧
        v.maxGroup = max t.maxGroup u.maxGroup) ∧
    ∀ s, ∃ t, parse (escaped s) = .ok t ∧ ∀ input captured, t.expand input captured = s := by
  constructor
  · intro a b t u ht hu
    obtain ⟨ts, hts, rfl⟩ := reads_of_parse ht
    obtain ⟨us, hus, rfl⟩ := reads_of_parse hu
    have happend : Reads (a ++ b).toList (ts ++ us) := String.toList_append ▸ hts.append hus
    refine ⟨_, parse_of_reads happend, fun input captured => String.toList_inj.1 ?_, ?_⟩
    · rw [String.toList_append, toList_expand_piecesOf, toList_expand_piecesOf, toList_expand_piecesOf,
        List.flatMap_append]
    · rw [maxGroup_piecesOf, maxGroup_piecesOf, maxGroup_piecesOf, List.map_append, foldr_max_append]
  · intro s
    have hchars : Reads (escaped s).toList (s.toList.map .char) := by
      rw [escaped, String.toList_ofList]
      exact reads_escaped s.toList
    refine ⟨_, parse_of_reads hchars, fun input captured => String.toList_inj.1 ?_⟩
    rw [toList_expand_piecesOf, List.flatMap_map]
    exact List.flatMap_singleton' s.toList

/-- A literal that goes on behind the cut, with a character of four bytes in front of a reference. -/
theorem parse_append_wideCharacter :
    parse "a😀[1]x" = .ok ⟨[.literal "a😀", .group 1, .literal "x"]⟩ ∧
      parse "\\[é[02]" = .ok ⟨[.literal "[é", .group 2]⟩ ∧
      ∃ v, parse ("a😀[1]x" ++ "\\[é[02]") = .ok v ∧ v.maxGroup = 2 := by
  have hfirst : parse "a😀[1]x" = .ok ⟨[.literal "a😀", .group 1, .literal "x"]⟩ := by decide +kernel
  have hsecond : parse "\\[é[02]" = .ok ⟨[.literal "[é", .group 2]⟩ := by decide +kernel
  obtain ⟨v, hv, -, hmax⟩ := parse_append_and_escaped.1 hfirst hsecond
  exact ⟨hfirst, hsecond, v, hv, hmax⟩

end Polymatch.Template
