import Polymatch.Proofs.Pattern.Places
import Polymatch.Proofs.Template.InPlace

/-! # Errors at places of the text

A text that is no pattern or no template is rejected at a place of it, so what the error
shows of the text is all from there on. Reading either in place cuts every slice.
-/

namespace Polymatch

open Text (At)

variable {text : String} {e : ParseError} {fault : Fault} {offset : Nat}

/-- The text is rejected, as a pattern or as a template. -/
inductive Rejects (text : String) : ParseError → Prop
  | pattern (options : Pattern.ParseOptions) {e : ParseError} :
      Pattern.parse text options = .error e → Rejects text e
  | template {e : ParseError} : Template.parse text = .error e → Rejects text e

/-- An error is that of a fault in front of what is left of the text. -/
theorem Rejects.exists_fault (h : Rejects text e) :
    ∃ fault offset, e = .ofFault text fault ∧ At text.toList offset fault.rest := by
  cases h with
  | pattern options h =>
    have hagree := Pattern.agree_parse text options
    rw [Pattern.parse] at h
    split at h
    · cases h
    · rename_i fault hfault
      rw [hfault] at hagree
      obtain ⟨offset, -, hplace⟩ := hagree.of_fault
      exact ⟨fault, offset, (Except.error.inj h).symm, hplace⟩
  | template h =>
    have hagree := Template.agree_parse text
    rw [Template.parse] at h
    split at h
    · rename_i fault hfault
      rw [hfault] at hagree
      obtain ⟨offset, -, hplace⟩ := hagree.of_fault
      exact ⟨fault, offset, (Except.error.inj h).symm, hplace⟩
    · cases h

/-- What is wrong at a place of a text is reported with the bytes in front of it, and shown with the
text from there on. -/
theorem ofFault_at (h : At text.toList offset fault.rest) :
    ∃ before rest : String, text = before ++ rest ∧
      (ParseError.ofFault text fault).offset = before.utf8ByteSize ∧
      ParseError.dropBytes? (ParseError.ofFault text fault).offset text.toList = some rest.toList ∧
      (ParseError.ofFault text fault).fragment = rest := by
  have hoffset : (ParseError.ofFault text fault).offset = offset := h.pos_eq.symm
  have hdrop := h.dropBytes?
  rw [← hoffset] at hdrop
  obtain ⟨before, htext, hsize⟩ := h
  refine ⟨String.ofList before, String.ofList fault.rest, ?_, ?_, ?_, ?_⟩
  · rw [← String.ofList_append, ← htext, String.ofList_toList]
  · rw [hoffset, ← Text.byteSize_toList, String.toList_ofList, hsize]
  · rw [hdrop, String.toList_ofList]
  · rw [ParseError.fragment]
    exact congrArg (fun rest? : Option (List Char) => String.ofList (rest?.getD [])) hdrop

theorem ne_badCut {α : Type} (x : Except ParseError α) (offset : Nat) :
    x.mapError Halt.ofError ≠ .error (.badCut offset) := by
  cases x with
  | error e => exact fun h => nomatch h
  | ok a => exact fun h => nomatch h

/-- A pattern or a template is read in place with the same result, and no slice is cut where no character
begins. A text is rejected at the end of some whole characters of it, and what the error shows is all of the
text behind these. -/
theorem parse_cuts_at_characters (text : String) :
    (∀ options, Pattern.InPlace.parse text options = (Pattern.parse text options).mapError Halt.ofError ∧
      ∀ offset, Pattern.InPlace.parse text options ≠ .error (.badCut offset)) ∧
    (Template.InPlace.parse text = (Template.parse text).mapError Halt.ofError ∧
      ∀ offset, Template.InPlace.parse text ≠ .error (.badCut offset)) ∧
    ∀ e, Rejects text e → e.input = text ∧ ∃ before rest, text = before ++ rest ∧
      e.offset = before.utf8ByteSize ∧ ParseError.dropBytes? e.offset text.toList = some rest.toList ∧
      e.fragment = rest := by
  refine ⟨fun options => ?_, ?_, fun e he => ?_⟩
  · have heq := Pattern.InPlace.parse_eq text options
    exact ⟨heq, heq ▸ ne_badCut _⟩
  · have heq := Template.InPlace.parse_eq text
    exact ⟨heq, heq ▸ ne_badCut _⟩
  · obtain ⟨fault, offset, rfl, hplace⟩ := he.exists_fault
    exact ⟨rfl, ofFault_at hplace⟩

/-- A character of two bytes stands in front of the class and one of four is not allowed in it. -/
theorem parse_cuts_at_characters_wide :
    Rejects "é[😀" ⟨"é[😀", 3, .outOfRange '😀'⟩ ∧
      (⟨"é[😀", 3, .outOfRange '😀'⟩ : ParseError).fragment = "😀" := by
  have hrejects : Rejects "é[😀" ⟨"é[😀", 3, .outOfRange '😀'⟩ := .pattern ⟨false⟩ (by with_unfolding_all rfl)
  obtain ⟨-, before, rest, -, -, hdrop, hfragment⟩ := (parse_cuts_at_characters _).2.2 _ hrejects
  have hrest : some rest.toList = some ['😀'] := hdrop.symm.trans (by decide)
  exact ⟨hrejects, hfragment.trans (String.toList_inj.1 (Option.some.inj hrest))⟩

end Polymatch
