import Mathlib
import Polymatch.Text.Units

/-! # Text and its units

Reading the units of a text back gives the text, and so does reading a slice of them that
begins and ends where characters do. Reading another slice replaces the halves of
characters at its ends, but keeps the number of units.
-/

namespace Polymatch.Text

variable {c : Char} {s a b : String} {u v : Nat} {l : List Nat} {n : Nat}

theorem isHighSurrogate_iff : isHighSurrogate u = true ↔ 0xD800 ≤ u ∧ u < 0xDC00 := by simp [isHighSurrogate]

theorem isLowSurrogate_iff : isLowSurrogate u = true ↔ 0xDC00 ≤ u ∧ u < 0xE000 := by simp [isLowSurrogate]

/-- A character is not half of a pair. -/
theorem not_surrogate (c : Char) : isHighSurrogate c.toNat = false ∧ isLowSurrogate c.toNat = false := by
  have hc : c.toNat < 0xD800 ∨ 0xDFFF < c.toNat ∧ c.toNat < 0x110000 := c.valid
  simp only [← Bool.not_eq_true, isHighSurrogate_iff, isLowSurrogate_iff]
  omega

theorem charOfUnit_toNat (c : Char) : charOfUnit c.toNat = c := by
  obtain ⟨hhigh, hlow⟩ := not_surrogate c
  rw [charOfUnit, hhigh, hlow, Bool.or_false, if_neg Bool.false_ne_true, Char.ofNat_toNat]

/-- A unit that is not the first half of a pair is read alone. -/
theorem charsOfUnits_of_not_high (h : isHighSurrogate u = false) (l : List Nat) :
    charsOfUnits (u :: l) = charOfUnit u :: charsOfUnits l := by
  cases l with
  | nil => rfl
  | cons v l => rw [charsOfUnits, h, Bool.false_and, if_neg Bool.false_ne_true]

/-- The units of a character are read back as the character, whatever follows. -/
theorem charsOfUnits_charUnits (c : Char) (l : List Nat) :
    charsOfUnits (charUnits c ++ l) = c :: charsOfUnits l := by
  have hc : c.toNat < 0xD800 ∨ 0xDFFF < c.toNat ∧ c.toNat < 0x110000 := c.valid
  rw [charUnits]
  split
  · rw [List.singleton_append, charsOfUnits_of_not_high (not_surrogate c).1, charOfUnit_toNat]
  · rename_i hge
    rw [unitLimit] at hge
    have hhigh : isHighSurrogate (0xD800 + (c.toNat - unitLimit) / 0x400) = true := by
      rw [isHighSurrogate_iff, unitLimit]
      omega
    have hlow : isLowSurrogate (0xDC00 + (c.toNat - unitLimit) % 0x400) = true := by
      rw [isLowSurrogate_iff]
      omega
    have hjoin : unitLimit + (0xD800 + (c.toNat - unitLimit) / 0x400 - 0xD800) * 0x400 +
        (0xDC00 + (c.toNat - unitLimit) % 0x400 - 0xDC00) = c.toNat := by
      rw [unitLimit]
      omega
    rw [List.cons_append, List.singleton_append, charsOfUnits, hhigh, hlow, Bool.and_self, if_pos rfl, hjoin,
      Char.ofNat_toNat]

theorem charsOfUnits_flatMap (cs : List Char) (l : List Nat) :
    charsOfUnits (cs.flatMap charUnits ++ l) = cs ++ charsOfUnits l := by
  induction cs with
  | nil => rfl
  | cons c cs ih => rw [List.flatMap_cons, List.append_assoc, charsOfUnits_charUnits, ih, List.cons_append]

/-- The units of a text are read back as the text. -/
theorem ofUnits_units (s : String) : ofUnits (units s) = s := by
  have h := charsOfUnits_flatMap s.toList []
  rw [List.append_nil, charsOfUnits, List.append_nil] at h
  rw [ofUnits, units, h, String.ofList_toList]

theorem units_append (a b : String) : units (a ++ b) = units a ++ units b := by
  rw [units, String.toList_append, List.flatMap_append]
  rfl

theorem charUnits_bounds (c : Char) : 0 < (charUnits c).length ∧ ∀ u ∈ charUnits c, u < unitLimit := by
  have hc : c.toNat < 0xD800 ∨ 0xDFFF < c.toNat ∧ c.toNat < 0x110000 := c.valid
  rw [charUnits]
  split
  · exact ⟨Nat.zero_lt_one, List.forall_mem_singleton.2 ‹_›⟩
  · refine ⟨Nat.zero_lt_two, List.forall_mem_cons.2 ⟨?_, List.forall_mem_singleton.2 ?_⟩⟩ <;>
      rw [unitLimit] <;> omega

theorem lt_of_mem_units (h : u ∈ units s) : u < unitLimit := by
  obtain ⟨c, -, hu⟩ := List.mem_flatMap.1 h
  exact (charUnits_bounds c).2 u hu

/-- A unit that stands alone is read as a character of one unit. -/
theorem length_charUnits_charOfUnit (h : u < unitLimit) : (charUnits (charOfUnit u)).length = 1 := by
  rw [charOfUnit]
  split
  · rfl
  · have hlt : (Char.ofNat u).toNat < unitLimit := by
      rw [Char.toNat_ofNat]
      split <;> omega
    rw [charUnits, if_pos hlt, List.length_singleton]

theorem length_charUnits_pair (hu : isHighSurrogate u = true) (hv : isLowSurrogate v = true) :
    (charUnits (Char.ofNat (unitLimit + (u - 0xD800) * 0x400 + (v - 0xDC00)))).length = 2 := by
  rw [isHighSurrogate_iff] at hu
  rw [isLowSurrogate_iff] at hv
  have hvalid : (unitLimit + (u - 0xD800) * 0x400 + (v - 0xDC00)).isValidChar := by
    rw [unitLimit]
    right
    omega
  rw [charUnits, Char.toNat_ofNat, if_pos hvalid, if_neg (by omega), List.length_cons, List.length_singleton]

/-- Reading units keeps their number, also where a half of a pair is replaced. -/
theorem length_units_ofUnits (h : ∀ u ∈ l, u < unitLimit) : (units (ofUnits l)).length = l.length := by
  rw [ofUnits, units, String.toList_ofList]
  fun_induction charsOfUnits l with
  | case1 => rfl
  | case2 u =>
    rw [List.flatMap_singleton, length_charUnits_charOfUnit (h u List.mem_cons_self)]
    rfl
  | case3 u v rest hpair ih =>
    obtain ⟨hu, hv⟩ := Bool.and_eq_true_iff.1 hpair
    rw [List.flatMap_cons, List.length_append, length_charUnits_pair hu hv,
      ih fun w hw => h w (List.mem_cons_of_mem _ (List.mem_cons_of_mem _ hw))]
    simp only [List.length_cons]
    omega
  | case4 u v rest _ ih =>
    rw [List.flatMap_cons, List.length_append, length_charUnits_charOfUnit (h u List.mem_cons_self),
      ih fun w hw => h w (List.mem_cons_of_mem _ hw)]
    simp only [List.length_cons]
    omega

/-- A character begins, or the text ends, behind the given number of units. -/
def Splits (s : String) (n : Nat) : Prop := ∃ a b, s = a ++ b ∧ (units a).length = n

theorem Splits.append (h : Splits b n) (a : String) : Splits (a ++ b) ((units a).length + n) := by
  obtain ⟨b', c, rfl, rfl⟩ := h
  exact ⟨a ++ b', c, String.append_assoc.symm, by rw [units_append, List.length_append]⟩

theorem length_le_flatMap_charUnits (cs : List Char) : cs.length ≤ (cs.flatMap charUnits).length := by
  induction cs with
  | nil => exact Nat.le_refl 0
  | cons c cs ih =>
    have := (charUnits_bounds c).1
    rw [List.flatMap_cons, List.length_append, List.length_cons]
    omega

/-- Of two fronts of a text, the one with fewer units is a front of the other. -/
theorem exists_append_of_le {a b a' b' : String} (h : a ++ b = a' ++ b') (hle : (units a).length ≤ (units a').length) :
    ∃ c, a' = a ++ c ∧ b = c ++ b' := by
  have hlist := congrArg String.toList h
  rw [String.toList_append, String.toList_append] at hlist
  rcases List.append_eq_append_iff.1 hlist with ⟨cs, hfront, hback⟩ | ⟨cs, hfront, hback⟩
  · refine ⟨String.ofList cs, String.toList_inj.1 ?_, String.toList_inj.1 ?_⟩
    · rw [hfront, String.toList_append, String.toList_ofList]
    · rw [hback, String.toList_append, String.toList_ofList]
  · -- the longer front has no more units, so nothing follows
    have hlength := length_le_flatMap_charUnits cs
    rw [units, units, hfront, List.flatMap_append, List.length_append] at hle
    obtain rfl : cs = [] := List.length_eq_zero_iff.1 (by omega)
    refine ⟨"", String.toList_inj.1 ?_, String.toList_inj.1 ?_⟩
    · rw [String.append_empty, hfront, List.append_nil]
    · rw [String.empty_append, hback, List.nil_append]

theorem Splits.behind (h : Splits (a ++ b) n) (hle : (units a).length ≤ n) : Splits b (n - (units a).length) := by
  obtain ⟨a', b', heq, rfl⟩ := h
  obtain ⟨c, rfl, rfl⟩ := exists_append_of_le heq hle
  exact ⟨c, b', rfl, by rw [units_append, List.length_append, Nat.add_sub_cancel_left]⟩

end Polymatch.Text
