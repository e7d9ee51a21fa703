import Polymatch.ParseError

/-! # Slices by byte offsets

A text can be read in place, by its slices between byte offsets. A slice has to begin and
end where characters do, else it cannot be cut.
-/

namespace Polymatch

/-- Why reading a text in place ends without a result. -/
inductive Halt
  /-- A slice was to be cut at an offset where no character begins and the text does not end. -/
  | badCut (offset : Nat)
  | fault (offset : Nat) (kind : ParseErrorKind)
  deriving DecidableEq, Repr

/-- A text is rejected in place by what is wrong and where. -/
def Halt.ofError (e : ParseError) : Halt := .fault e.offset e.kind

namespace Text

/-- The characters in front of a byte offset, if a character begins or the text ends there. -/
def takeBytes? : Nat → List Char → Option (List Char)
  | 0, _ => some []
  | _ + 1, [] => none
  | n + 1, c :: cs => if c.utf8Size ≤ n + 1 then (c :: ·) <$> takeBytes? (n + 1 - c.utf8Size) cs else none

/-- The slice from an offset on. -/
def sliceFrom (text : List Char) (lo : Nat) : Except Halt (List Char) :=
  match ParseError.dropBytes? lo text with
  | some cs => .ok cs
  | none => .error (.badCut lo)

/-- The slice from one offset up to another. -/
def slice (text : List Char) (lo hi : Nat) : Except Halt (List Char) :=
  match sliceFrom text lo with
  | .error halt => .error halt
  | .ok cs =>
    if hi < lo then .error (.badCut hi)
    else
      match takeBytes? (hi - lo) cs with
      | some front => .ok front
      | none => .error (.badCut hi)

/-- The offset of the first place where a character stands. -/
def find? (c : Char) : List Char → Option Nat
  | [] => none
  | d :: cs => if d = c then some 0 else (d.utf8Size + ·) <$> find? c cs

/-- The character at an offset; none at the end. -/
def peek (text : List Char) (pos : Nat) : Except Halt (Option Char) := List.head? <$> sliceFrom text pos

/-- The character at an offset, and the offset behind it. -/
def bump (text : List Char) (pos : Nat) : Except Halt (Option Char × Nat) :=
  match peek text pos with
  | .error halt => .error halt
  | .ok none => .ok (none, pos)
  | .ok (some c) => .ok (some c, pos + c.utf8Size)

/-- Whether a character stands at an offset, and the offset behind it if it does. -/
def eat (text : List Char) (expected : Char) (pos : Nat) : Except Halt (Bool × Nat) :=
  match peek text pos with
  | .error halt => .error halt
  | .ok c => .ok (if c = some expected then (true, pos + expected.utf8Size) else (false, pos))

theorem dropBytes?_eq_some {n : Nat} {text cs : List Char} (h : ParseError.dropBytes? n text = some cs) :
    n + byteSize cs = byteSize text := by
  fun_induction ParseError.dropBytes? n text with
  | case1 =>
    cases h
    exact Nat.zero_add _
  | case2 => cases h
  | case3 n c rest hle ih =>
    have := ih h
    simp only [byteSize, List.foldr_cons] at this ⊢
    omega
  | case4 => cases h

theorem byteSize_pos {c : Char} {cs : List Char} : 0 < byteSize (c :: cs) :=
  Nat.add_pos_left c.utf8Size_pos _

/-- An offset at which a character stands lies in front of the end. -/
theorem lt_of_peek {text : List Char} {pos : Nat} {c : Char} (h : peek text pos = .ok (some c)) :
    pos < byteSize text := by
  rw [peek, sliceFrom] at h
  split at h
  · rename_i cs hcs
    match cs with
    | [] => exact nomatch h
    | d :: cs =>
      have := dropBytes?_eq_some hcs
      have := @byteSize_pos d cs
      omega
  · exact nomatch h

theorem lt_of_bump {text : List Char} {pos next : Nat} {c : Char} (h : bump text pos = .ok (some c, next)) :
    pos < byteSize text ∧ pos < next := by
  rw [bump] at h
  split at h
  · cases h
  · cases h
  · rename_i hpeek
    cases h
    exact ⟨lt_of_peek hpeek, Nat.lt_add_of_pos_right c.utf8Size_pos⟩

theorem le_of_eat {text : List Char} {pos next : Nat} {c : Char} {eaten : Bool}
    (h : eat text c pos = .ok (eaten, next)) : pos ≤ next := by
  rw [eat] at h
  split at h
  · cases h
  · split at h <;> cases h
    · exact Nat.le_add_right ..
    · exact Nat.le_refl _

end Text

end Polymatch
