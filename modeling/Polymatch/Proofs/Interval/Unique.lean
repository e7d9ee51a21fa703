import Polymatch.Proofs.Interval.Canonical

/-! # Normal forms are determined by their ordinals

Two lists in normal form that contain the same ordinals are the same list. So whatever
makes a list in normal form is known by the ordinals of the list: putting a list in
normal form, and the complement below a limit with its own complement.
-/

namespace Polymatch.Interval

variable {i j : Interval} {l r : List Interval} {x limit : Nat}

/-- Ascending intervals with a gap between neighbours; none is empty. -/
structure Normal (l : List Interval) : Prop where
  ascending : l.Pairwise (·.hi < ·.lo)
  nonempty : ∀ i ∈ l, i.lo < i.hi

theorem Canonical.normal (h : Canonical limit l) : Normal l := ⟨h.ascending, h.nonempty⟩

theorem exists_bound (l : List Interval) : ∃ bound, ∀ i ∈ l, i.hi ≤ bound := by
  induction l with
  | nil => exact ⟨0, List.forall_mem_nil _⟩
  | cons i l ih =>
    obtain ⟨bound, h⟩ := ih
    refine ⟨max i.hi bound, List.forall_mem_cons.2 ⟨Nat.le_max_left .., fun j hj => ?_⟩⟩
    exact Nat.le_trans (h j hj) (Nat.le_max_right ..)

theorem normal_normalize (l : List Interval) : Normal (normalize l) := by
  obtain ⟨bound, h⟩ := exists_bound l
  exact (canonical_normalize h).normal

namespace Normal

theorem exists_canonical (h : Normal l) : ∃ bound, Canonical bound l := by
  obtain ⟨bound, hle⟩ := exists_bound l
  exact ⟨bound, h.ascending, h.nonempty, hle⟩

theorem of_cons (h : Normal (i :: l)) : Normal l :=
  ⟨h.ascending.of_cons, (List.forall_mem_cons.1 h.nonempty).2⟩

theorem lo_lt_hi (h : Normal (i :: l)) : i.lo < i.hi := h.nonempty i List.mem_cons_self

theorem covers_head (hlo : i.lo ≤ x) (hhi : x < i.hi) : covers (i :: l) x = true := covers_cons.2 (.inl ⟨hlo, hhi⟩)

/-- There is a gap between the first interval and the ordinals of the others. -/
theorem hi_lt_of_covers (h : Normal (i :: l)) (hx : covers l x = true) : i.hi < x := by
  obtain ⟨j, hj, hlo, -⟩ := covers_iff.1 hx
  exact Nat.lt_of_lt_of_le ((List.pairwise_cons.1 h.ascending).1 j hj) hlo

theorem lo_le_of_covers (h : Normal (i :: l)) (hx : covers (i :: l) x = true) : i.lo ≤ x := by
  have hlt := h.lo_lt_hi
  rcases covers_cons.1 hx with ⟨hlo, -⟩ | hx
  · exact hlo
  · have := h.hi_lt_of_covers hx
    omega

theorem not_covers_hi (h : Normal (i :: l)) : ¬ covers (i :: l) i.hi = true := by
  intro hx
  rcases covers_cons.1 hx with ⟨-, hlt⟩ | hx
  · exact Nat.lt_irrefl _ hlt
  · exact Nat.lt_irrefl _ (h.hi_lt_of_covers hx)

/-- If two lists begin at the same place, the first interval of one reaches as far as that of the
other. -/
theorem hi_le (hl : Normal (i :: l)) (hlo : i.lo = j.lo)
    (h : ∀ x, covers (j :: r) x = true → covers (i :: l) x = true) : j.hi ≤ i.hi := by
  apply Nat.le_of_not_lt
  intro hlt
  have hle := hl.lo_lt_hi
  exact hl.not_covers_hi (h i.hi (covers_head (by omega) hlt))

theorem covers_behind (hl : Normal (i :: l)) (h : covers (i :: l) x = true → covers (i :: r) x = true)
    (hx : covers l x = true) : covers r x = true := by
  have hlt := hl.hi_lt_of_covers hx
  rcases covers_cons.1 (h (covers_cons.2 (.inr hx))) with ⟨-, hhi⟩ | hr
  · omega
  · exact hr

/-- Lists in normal form with the same ordinals are the same. -/
theorem eq_of_covers (hl : Normal l) (hr : Normal r) (h : ∀ x, covers l x = true ↔ covers r x = true) :
    l = r := by
  induction l generalizing r with
  | nil =>
    cases r with
    | nil => rfl
    | cons j r => exact nomatch (h j.lo).2 (covers_head (Nat.le_refl _) hr.lo_lt_hi)
  | cons i l ih =>
    cases r with
    | nil => exact nomatch (h i.lo).1 (covers_head (Nat.le_refl _) hl.lo_lt_hi)
    | cons j r =>
      have hlo : i.lo = j.lo := Nat.le_antisymm
        (hl.lo_le_of_covers ((h j.lo).2 (covers_head (Nat.le_refl _) hr.lo_lt_hi)))
        (hr.lo_le_of_covers ((h i.lo).1 (covers_head (Nat.le_refl _) hl.lo_lt_hi)))
      have hhi : i.hi = j.hi := Nat.le_antisymm (hr.hi_le hlo.symm fun x => (h x).1) (hl.hi_le hlo fun x => (h x).2)
      obtain rfl : i = j := by
        cases i
        cases j
        exact congrArg₂ Interval.mk hlo hhi
      rw [ih hl.of_cons hr.of_cons fun x => ⟨hl.covers_behind (h x).1, hr.covers_behind (h x).2⟩]

end Normal

/-- A list is in normal form just if putting it in normal form leaves it as it is. -/
theorem normal_iff : Normal l ↔ normalize l = l := by
  constructor
  · intro h
    exact (normal_normalize l).eq_of_covers h fun x => by rw [covers_normalize]
  · exact fun h => h ▸ normal_normalize l

theorem normalize_eq_iff : normalize l = normalize r ↔ ∀ x, covers l x = covers r x := by
  constructor
  · intro h x
    rw [← covers_normalize l, h, covers_normalize]
  · intro h
    refine (normal_normalize l).eq_of_covers (normal_normalize r) fun x => ?_
    rw [covers_normalize, covers_normalize, h]

/-! ## Complements -/

theorem Normal.complement (h : Normal l) (limit : Nat) : Normal (complement l limit) := by
  obtain ⟨bound, hc⟩ := h.exists_canonical
  exact (canonical_complement hc limit).normal

/-- The complement of a list in normal form has the ordinals below the limit that the list does not
have. -/
theorem covers_complement (h : Normal l) :
    covers (complement l limit) x = true ↔ x < limit ∧ covers l x = false := by
  have hle : l.Pairwise (·.hi ≤ ·.lo) := h.ascending.imp Nat.le_of_lt
  rw [complement, covers_gaps hle h.nonempty]
  exact and_iff_right (Nat.zero_le x)

/-- The parts of the intervals below a limit. -/
def clip (limit : Nat) (l : List Interval) : List Interval :=
  (l.map fun i => ⟨i.lo, min i.hi limit⟩).filter (!·.isEmpty)

theorem mem_clip : j ∈ clip limit l ↔ ∃ i ∈ l, i.lo < min i.hi limit ∧ ⟨i.lo, min i.hi limit⟩ = j := by
  simp only [clip, List.mem_filter, List.mem_map, not_isEmpty_iff]
  constructor
  · rintro ⟨⟨i, hi, rfl⟩, hlt⟩
    exact ⟨i, hi, hlt, rfl⟩
  · rintro ⟨i, hi, hlt, rfl⟩
    exact ⟨⟨i, hi, rfl⟩, hlt⟩

theorem Normal.clip (h : Normal l) (limit : Nat) : Normal (clip limit l) := by
  constructor
  · refine List.Pairwise.filter _ (List.pairwise_map.2 (h.ascending.imp fun hij => ?_))
    exact Nat.lt_of_le_of_lt (Nat.min_le_left ..) hij
  · intro j hj
    obtain ⟨i, -, hlt, rfl⟩ := mem_clip.1 hj
    exact hlt

theorem covers_clip : covers (clip limit l) x = true ↔ x < limit ∧ covers l x = true := by
  rw [covers_iff, covers_iff]
  constructor
  · rintro ⟨j, hj, hlo, hhi⟩
    obtain ⟨i, hi, -, rfl⟩ := mem_clip.1 hj
    have hmin := Nat.lt_min.1 hhi
    exact ⟨hmin.2, i, hi, hlo, hmin.1⟩
  · rintro ⟨hx, i, hi, hlo, hhi⟩
    have hmin := Nat.lt_min.2 ⟨hhi, hx⟩
    exact ⟨_, mem_clip.2 ⟨i, hi, Nat.lt_of_le_of_lt hlo hmin, rfl⟩, hlo, hmin⟩

/-- What the complement leaves free below the limit is the list up to there. -/
theorem complement_complement (h : Normal l) (limit : Nat) :
    complement (complement l limit) limit = clip limit l := by
  refine ((h.complement limit).complement limit).eq_of_covers (h.clip limit) fun x => ?_
  rw [covers_complement (h.complement limit), covers_clip, ← Bool.not_eq_true, covers_complement h,
    ← Bool.not_eq_true]
  constructor
  · rintro ⟨hx, hnot⟩
    exact ⟨hx, by_contra fun hc => hnot ⟨hx, hc⟩⟩
  · rintro ⟨hx, hc⟩
    exact ⟨hx, fun hnot => hnot.2 hc⟩

/-- Putting a list in normal form keeps its ordinals, and these determine the normal form; the
complement of a list in normal form is the normal form of the other ordinals below the limit, and its
own complement is the list up to the limit. -/
theorem normal_forms :
    (∀ l, Normal (normalize l) ∧ ∀ x, covers (normalize l) x = covers l x) ∧
    (∀ l r, normalize l = normalize r ↔ ∀ x, covers l x = covers r x) ∧
    ∀ l limit, Normal l →
      Normal (complement l limit) ∧
      (∀ x, covers (complement l limit) x = true ↔ x < limit ∧ covers l x = false) ∧
      complement (complement l limit) limit = clip limit l :=
  ⟨fun l => ⟨normal_normalize l, covers_normalize l⟩, fun _ _ => normalize_eq_iff,
    fun _ limit h => ⟨h.complement limit, fun _ => covers_complement h, complement_complement h limit⟩⟩

/-- The limit lies inside of the last interval but one. -/
theorem normal_forms_clipped :
    Normal [⟨1, 4⟩, ⟨5, 9⟩, ⟨11, 12⟩] ∧ complement [⟨1, 4⟩, ⟨5, 9⟩, ⟨11, 12⟩] 7 = [⟨0, 1⟩, ⟨4, 5⟩] ∧
      complement [⟨0, 1⟩, ⟨4, 5⟩] 7 = [⟨1, 4⟩, ⟨5, 7⟩] := by
  have hnormal : Normal [⟨1, 4⟩, ⟨5, 9⟩, ⟨11, 12⟩] := ⟨by decide, by decide⟩
  have htwice := (normal_forms.2.2 _ 7 hnormal).2.2
  exact ⟨hnormal, rfl, htwice⟩

end Polymatch.Interval
