import Mathlib.Data.List.TakeWhile
import Polymatch.Proofs.Template.Expansion
import Polymatch.Proofs.Text.Slice
import Polymatch.Template.InPlace

/-! # Reading templates in place agrees

A template text has the same pieces in place as from its tokens. What is looked up behind
a bracket is cut at places of the text, and as many characters are passed over as there
are bytes since numbers are plain digits.
-/

namespace Polymatch.Template

open Text (At Agree byteSize)

variable {text cs rest digits literal : List Char} {c : Char} {offset group : Nat} {pieces : List Piece}
  {ts : List Token}

/-! ## Literals -/

theorem flush_eq (pieces : List Piece) (literal : List Char) :
    InPlace.flush pieces literal = pieces ++ InPlace.flush [] literal := by
  cases literal with
  | nil => exact (List.append_nil pieces).symm
  | cons c literal => rfl

/-- A character in front of a literal that is held back is held back too. -/
theorem prependChar_flush (c : Char) (literal : List Char) {later : List Piece}
    (h : ∀ text others, later ≠ .literal text :: others) :
    prependChar c (InPlace.flush [] literal ++ later) = InPlace.flush [] (c :: literal) ++ later := by
  cases literal with
  | nil => exact prependChar.eq_2 c later h
  | cons d literal =>
    have hjoin : String.singleton c ++ String.ofList (d :: literal) = String.ofList (c :: d :: literal) :=
      String.toList_inj.1 (by rw [String.toList_append, String.toList_singleton, String.toList_ofList,
        String.toList_ofList, List.singleton_append])
    exact congrArg (fun text => Piece.literal text :: later) hjoin

theorem piecesOf_chars_append (literal : List Char) (ts : List Token)
    (h : ∀ text others, piecesOf ts ≠ .literal text :: others) :
    piecesOf (literal.map .char ++ ts) = InPlace.flush [] literal ++ piecesOf ts := by
  induction literal with
  | nil => rfl
  | cons c literal ih => rw [List.map_cons, List.cons_append, piecesOf, ih, prependChar_flush c literal h]

/-! ## Brackets -/

theorem find?_close (h : ']' ∉ digits) (cs : List Char) :
    Text.find? ']' (digits ++ ']' :: cs) = some (byteSize digits) := by
  induction digits with
  | nil => rfl
  | cons d digits ih =>
    obtain ⟨hd, hdigits⟩ := List.ne_and_not_mem_of_not_mem_cons h
    rw [List.cons_append, Text.find?, if_neg (Ne.symm hd), ih hdigits]
    rfl

theorem find?_eq_none (h : ']' ∉ cs) : Text.find? ']' cs = none := by
  induction cs with
  | nil => rfl
  | cons d cs ih =>
    obtain ⟨hd, hcs⟩ := List.ne_and_not_mem_of_not_mem_cons h
    rw [Text.find?, if_neg (Ne.symm hd), ih hcs]
    rfl

theorem readDigits_close (hdigits : ']' ∉ digits) (h : At text offset ('[' :: (digits ++ ']' :: cs))) :
    InPlace.readDigits text offset = .ok (digits, byteSize digits) := by
  have hrest : Text.sliceFrom text (offset + 1) = .ok (digits ++ ']' :: cs) := h.next.sliceFrom
  have hcut := (At.start (digits ++ ']' :: cs)).slice
  rw [Nat.zero_add] at hcut
  rw [InPlace.readDigits, hrest]
  dsimp only
  rw [find?_close hdigits]
  dsimp only
  rw [hcut]
  rfl

theorem readDigits_open (hrest : ']' ∉ rest) (h : At text offset ('[' :: rest)) :
    InPlace.readDigits text offset = .error (.fault offset .unclosedReference) := by
  have hslice : Text.sliceFrom text (offset + 1) = .ok rest := h.next.sliceFrom
  rw [InPlace.readDigits, hslice]
  dsimp only
  rw [find?_eq_none hrest]

/-- A number has as many bytes as characters. -/
theorem byteSize_of_groupNumber (h : groupNumber digits = .ok group) : byteSize digits = digits.length := by
  rw [groupNumber] at h
  split at h
  · cases h
  · rename_i hdigits
    rw [Bool.or_eq_true, not_or, Bool.not_eq_true', Bool.not_eq_false] at hdigits
    exact Text.byteSize_eq_length fun c hc => Text.lt_of_isDigit (List.all_eq_true.1 hdigits.2 c hc)

/-! ## Characters and references -/

/-- From a place on, a template is read in place as its tokens are: its pieces follow those read before,
where the literal that is held back is continued. -/
theorem agree_scan (h : At text offset cs) (pieces : List Piece) (literal : List Char) :
    Agree text (fun all ts => all = pieces ++ piecesOf (literal.map .char ++ ts))
      (InPlace.scan text offset cs pieces literal) (tokens cs) := by
  fun_induction tokens cs generalizing offset pieces literal with
  | case1 =>
    rw [InPlace.scan, flush_eq]
    refine .ok (congrArg (pieces ++ ·) ?_)
    rw [piecesOf_chars_append literal [] fun _ _ h => nomatch h]
    exact (List.append_nil _).symm
  | case2 =>
    rw [InPlace.scan]
    exact .fault h
  | case3 c rest ih =>
    rw [InPlace.scan]
    refine (ih h.next.next pieces (literal ++ [c])).map_right fun all ts hall => ?_
    rw [hall, List.map_append, List.append_assoc]
    rfl
  | case4 rest hnone =>
    have hclose : ']' ∉ rest := fun hmem => of_decide_eq_true (List.dropWhile_eq_nil_iff.1 hnone ']' hmem) rfl
    rw [InPlace.scan, readDigits_open hclose h]
    exact .fault h
  | case5 rest close behind hclose kind hg =>
    obtain ⟨hdigits, hrest⟩ := exists_close hclose
    have hread := readDigits_close hdigits (hrest ▸ h)
    rw [InPlace.scan, hread]
    dsimp only
    rw [hg]
    exact .fault h
  | case6 rest close behind hclose group hg _ ih =>
    obtain ⟨hdigits, hrest⟩ := exists_close hclose
    generalize rest.takeWhile (· ≠ ']') = digits at hdigits hrest hg
    subst hrest
    have hread := readDigits_close hdigits h
    have hlength : (digits ++ [']']).length = byteSize digits + 1 := by
      rw [byteSize_of_groupNumber hg, List.length_append, List.length_singleton]
    have hsplit : digits ++ ']' :: behind = (digits ++ [']']) ++ behind := (List.append_assoc digits [']'] behind).symm
    rw [hsplit] at h ⊢
    rw [InPlace.scan, hread]
    dsimp only
    rw [hg]
    dsimp only
    rw [List.take_left' hlength, List.drop_left' hlength]
    refine (ih h.next.forward (InPlace.flush pieces literal ++ [.group group]) []).map_right fun all ts hall => ?_
    have hflush := piecesOf_chars_append literal (.reference group :: ts) fun _ _ hne => nomatch hne
    rw [hall, hflush, flush_eq, List.append_assoc, List.append_assoc]
    rfl
  | case7 c rest hend hescape hopen ih =>
    rw [InPlace.scan]
    · refine (ih h.next pieces (literal ++ [c])).map_right fun all ts hall => ?_
      rw [hall, List.map_append, List.append_assoc]
      rfl
    · exact hend
    · exact hescape
    · exact hopen

theorem agree_parse (text : String) :
    Agree text.toList Eq (InPlace.parse text) ((⟨piecesOf ·⟩) <$> tokens text.toList) :=
  (agree_scan (.start text.toList) [] []).map fun _ _ hpieces => congrArg Template.mk hpieces

/-- A template read in place is the template read from the tokens, or the same error. -/
theorem InPlace.parse_eq (text : String) : InPlace.parse text = (Template.parse text).mapError Halt.ofError := by
  rw [(agree_parse text).eq, Template.parse]
  cases tokens text.toList <;> rfl

end Polymatch.Template
