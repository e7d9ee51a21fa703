import Mathlib.Data.String.Basic
import Polymatch.Text.Slice

/-! # Places in a text

An offset is a place of a text if the characters in front of it have just so many bytes.
Slices from one place to another are cut, and reading in place agrees with reading what
is left of the text if it ends at the place that the other has come to.
-/

namespace Polymatch.Text

variable {text before cs ds front : List Char} {c : Char} {pos offset n : Nat} {kind : ParseErrorKind}

theorem byteSize_cons (c : Char) (cs : List Char) : byteSize (c :: cs) = c.utf8Size + byteSize cs := rfl

theorem byteSize_append (cs ds : List Char) : byteSize (cs ++ ds) = byteSize cs + byteSize ds := by
  induction cs with
  | nil => exact (Nat.zero_add _).symm
  | cons c cs ih => rw [List.cons_append, byteSize_cons, ih, byteSize_cons, Nat.add_assoc]

theorem byteSize_toList (s : String) : byteSize s.toList = s.utf8ByteSize := by
  have hlist (cs : List Char) : byteSize cs = String.utf8Len cs := by
    induction cs with
    | nil => rfl
    | cons c cs ih => rw [byteSize_cons, ih, String.utf8Len_cons, Nat.add_comm]
  rw [hlist, ← String.utf8ByteSize_ofList, String.ofList_toList]

theorem utf8Size_eq_one (h : c.toNat < 128) : c.utf8Size = 1 :=
  Char.utf8Size_eq_one_iff.mpr (UInt32.le_iff_toNat_le.mpr (Nat.le_of_lt_succ h))

theorem lt_of_isDigit (h : c.isDigit = true) : c.toNat < 128 := by
  simp only [Char.isDigit, Bool.and_eq_true, decide_eq_true_eq, ge_iff_le, UInt32.le_iff_toNat_le] at h
  exact Nat.lt_of_le_of_lt h.2 (by decide)

theorem byteSize_eq_length (h : ∀ c ∈ cs, c.toNat < 128) : byteSize cs = cs.length := by
  induction cs with
  | nil => rfl
  | cons c cs ih =>
    obtain ⟨hc, hcs⟩ := List.forall_mem_cons.1 h
    rw [byteSize_cons, utf8Size_eq_one hc, ih hcs, List.length_cons, Nat.add_comm]

theorem dropBytes?_append (before cs : List Char) :
    ParseError.dropBytes? (byteSize before) (before ++ cs) = some cs := by
  induction before with
  | nil => rw [List.nil_append]; cases cs <;> rfl
  | cons c before ih =>
    obtain ⟨n, hn⟩ : ∃ n, byteSize (c :: before) = n + 1 :=
      Nat.exists_eq_succ_of_ne_zero (Nat.ne_of_gt byteSize_pos)
    rw [byteSize_cons] at hn
    rw [byteSize_cons, hn, List.cons_append, ParseError.dropBytes?, if_pos (by omega)]
    rw [show n + 1 - c.utf8Size = byteSize before by omega, ih]

theorem takeBytes?_append (front cs : List Char) : takeBytes? (byteSize front) (front ++ cs) = some front := by
  induction front with
  | nil => rw [List.nil_append]; cases cs <;> rfl
  | cons c front ih =>
    obtain ⟨n, hn⟩ : ∃ n, byteSize (c :: front) = n + 1 :=
      Nat.exists_eq_succ_of_ne_zero (Nat.ne_of_gt byteSize_pos)
    rw [byteSize_cons] at hn
    rw [byteSize_cons, hn, List.cons_append, takeBytes?, if_pos (by omega)]
    rw [show n + 1 - c.utf8Size = byteSize front by omega, ih]
    rfl

theorem of_takeBytes? (h : takeBytes? n cs = some front) : ∃ ds, cs = front ++ ds ∧ byteSize front = n := by
  fun_induction takeBytes? n cs generalizing front with
  | case1 cs =>
    cases h
    exact ⟨cs, rfl, rfl⟩
  | case2 => cases h
  | case3 n c cs hle ih =>
    obtain ⟨front, hfront, rfl⟩ := Option.map_eq_some_iff.1 h
    obtain ⟨ds, rfl, hsize⟩ := ih hfront
    refine ⟨ds, rfl, ?_⟩
    rw [byteSize_cons, hsize]
    omega
  | case4 => cases h

/-- The text goes on with `cs` at the offset. -/
def At (text : List Char) (pos : Nat) (cs : List Char) : Prop := ∃ before, text = before ++ cs ∧ byteSize before = pos

namespace At

theorem start (text : List Char) : At text 0 text := ⟨[], rfl, rfl⟩

theorem forward (h : At text pos (front ++ cs)) : At text (pos + byteSize front) cs := by
  obtain ⟨before, rfl, rfl⟩ := h
  exact ⟨before ++ front, (List.append_assoc ..).symm, byteSize_append ..⟩

theorem next (h : At text pos (c :: cs)) : At text (pos + c.utf8Size) cs :=
  (forward h : At text (pos + byteSize [c]) cs)

theorem pos_eq (h : At text pos cs) : pos = byteSize text - byteSize cs := by
  obtain ⟨before, rfl, rfl⟩ := h
  rw [byteSize_append, Nat.add_sub_cancel]

theorem dropBytes? (h : At text pos cs) : ParseError.dropBytes? pos text = some cs := by
  obtain ⟨before, rfl, rfl⟩ := h
  exact dropBytes?_append before cs

theorem sliceFrom (h : At text pos cs) : sliceFrom text pos = .ok cs := by
  rw [Text.sliceFrom, h.dropBytes?]

theorem slice (h : At text pos (front ++ cs)) : slice text pos (pos + byteSize front) = .ok front := by
  rw [Text.slice, h.sliceFrom]
  dsimp only
  rw [if_neg (Nat.not_lt.2 (Nat.le_add_right ..)), Nat.add_sub_cancel_left, takeBytes?_append]

theorem of_slice (h : At text pos cs) (hslice : Text.slice text pos (pos + n) = .ok front) :
    ∃ ds, cs = front ++ ds ∧ byteSize front = n := by
  rw [Text.slice, h.sliceFrom] at hslice
  dsimp only at hslice
  rw [if_neg (Nat.not_lt.2 (Nat.le_add_right ..)), Nat.add_sub_cancel_left] at hslice
  split at hslice
  · rename_i htake
    cases hslice
    exact of_takeBytes? htake
  · cases hslice

theorem peek (h : At text pos cs) : peek text pos = .ok cs.head? := by
  rw [Text.peek, h.sliceFrom]
  rfl

theorem bump_nil (h : At text pos []) : bump text pos = .ok (none, pos) := by
  rw [bump, h.peek]
  rfl

theorem bump_cons (h : At text pos (c :: cs)) : bump text pos = .ok (some c, pos + c.utf8Size) := by
  rw [bump, h.peek]
  rfl

theorem eat (h : At text pos cs) (c : Char) :
    eat text c pos = .ok (if cs.head? = some c then (true, pos + c.utf8Size) else (false, pos)) := by
  rw [Text.eat, h.peek]

end At

/-! ## Agreement -/

/-- Both readers succeed with related results, or both find the same fault at the same place. -/
inductive Agree (text : List Char) {α β : Type} (related : α → β → Prop) : Except Halt α → Except Fault β → Prop
  | ok {a : α} {b : β} : related a b → Agree text related (.ok a) (.ok b)
  | fault {offset : Nat} {rest : List Char} {kind : ParseErrorKind} : At text offset rest →
      Agree text related (.error (.fault offset kind)) (.error ⟨rest, kind⟩)

/-- The same has been read, up to the same place. -/
def Same (text : List Char) {α : Type} (a : α × Nat) (b : α × List Char) : Prop := a.1 = b.1 ∧ At text a.2 b.2

variable {α β γ δ : Type} {related : α → β → Prop} {x : Except Halt α} {y : Except Fault β}

theorem Agree.of_ok {x : Except Halt (α × Nat)} {a : α} {rest : List Char}
    (h : Agree text (Same text) x (.ok (a, rest))) : ∃ pos, x = .ok (a, pos) ∧ At text pos rest := by
  cases h with
  | @ok read _ h =>
    have hread : read = (a, read.2) := Prod.ext h.1 rfl
    exact ⟨read.2, congrArg Except.ok hread, h.2⟩

/-- A fault is found in front of what is left of the text. -/
theorem Agree.of_fault {fault : Fault} (h : Agree text related x (.error fault)) :
    ∃ offset, x = .error (.fault offset fault.kind) ∧ At text offset fault.rest := by
  cases h with
  | fault h => exact ⟨_, rfl, h⟩

theorem Agree.ok_or_fault {x : Except Halt (α × Nat)} {y : Except Fault (α × List Char)}
    (h : Agree text (Same text) x y) :
    (∃ a pos rest, x = .ok (a, pos) ∧ y = .ok (a, rest) ∧ At text pos rest) ∨
      ∃ offset rest kind, x = .error (.fault offset kind) ∧ y = .error ⟨rest, kind⟩ ∧ At text offset rest := by
  obtain f | ⟨a, rest⟩ := y
  · obtain ⟨offset, hx, hrest⟩ := h.of_fault
    exact .inr ⟨offset, f.rest, f.kind, hx, rfl, hrest⟩
  · obtain ⟨pos, hx, hrest⟩ := h.of_ok
    exact .inl ⟨a, pos, rest, hx, rfl, hrest⟩

theorem Agree.map {related' : γ → δ → Prop} {f : α → γ} {g : β → δ} (h : Agree text related x y)
    (hfg : ∀ a b, related a b → related' (f a) (g b)) : Agree text related' (f <$> x) (g <$> y) := by
  cases h with
  | ok h => exact .ok (hfg _ _ h)
  | fault h => exact .fault h

theorem Agree.map_right {related' : α → δ → Prop} {g : β → δ} (h : Agree text related x y)
    (hg : ∀ a b, related a b → related' a (g b)) : Agree text related' x (g <$> y) := by
  cases h with
  | ok h => exact .ok (hg _ _ h)
  | fault h => exact .fault h

theorem Agree.bind {related' : γ → δ → Prop} {f : α → Except Halt γ} {g : β → Except Fault δ}
    (h : Agree text related x y) (hfg : ∀ a b, related a b → Agree text related' (f a) (g b)) :
    Agree text related' (x >>= f) (y >>= g) := by
  cases h with
  | ok h => exact hfg _ _ h
  | fault h => exact .fault h

/-- The fault of a text lies as far from its end as the rest is long. -/
theorem Agree.eq {x : Except Halt α} {y : Except Fault α} {text : String} (h : Agree text.toList Eq x y) :
    x = y.mapError fun fault => .ofError (.ofFault text fault) := by
  cases h with
  | ok h => exact congrArg _ h
  | @fault offset rest kind h =>
    have hoffset : offset = (ParseError.ofFault text ⟨rest, kind⟩).offset := h.pos_eq
    exact congrArg (fun offset => Except.error (Halt.fault offset kind)) hoffset

end Polymatch.Text
