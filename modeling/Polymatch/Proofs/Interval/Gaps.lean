import Polymatch.Interval

/-! # Gaps between intervals

The gaps that an ascending list leaves in a window ascend as well, and they hold
exactly the ordinals of the window that the list does not contain.
-/

namespace Polymatch.Interval

/-- The two intervals have no ordinal in common. -/
def Apart (i j : Interval) : Prop := ∀ x, i.contains x = true → j.contains x = true → False

theorem Apart.symm {i j : Interval} (h : i.Apart j) : j.Apart i := fun x hj hi => h x hi hj

theorem apart_of_le {i j : Interval} (h : i.hi ≤ j.lo) : i.Apart j := by
  intro x hi hj
  simp only [contains_iff] at hi hj
  omega

theorem covers_iff {l : List Interval} {x : Nat} : covers l x = true ↔ ∃ i ∈ l, i.lo ≤ x ∧ x < i.hi := by
  simp [covers]

theorem covers_cons {i : Interval} {l : List Interval} {x : Nat} :
    covers (i :: l) x = true ↔ (i.lo ≤ x ∧ x < i.hi) ∨ covers l x = true := by
  simp [covers]

theorem covers_nil (x : Nat) : covers [] x = false := rfl

theorem covers_append {l m : List Interval} {x : Nat} :
    covers (l ++ m) x = true ↔ covers l x = true ∨ covers m x = true := by
  simp [covers]

theorem gaps_cons (lo limit : Nat) (i : Interval) (rest : List Interval) :
    gaps lo limit (i :: rest) =
      (if lo < min i.lo limit then [⟨lo, min i.lo limit⟩] else []) ++ gaps (max lo i.hi) limit rest := by
  simp only [gaps]
  split <;> rfl

/-- Gaps are not empty and lie in the window. -/
theorem bounds_of_mem_gaps {lo limit : Nat} {l : List Interval} {i : Interval}
    (h : i ∈ gaps lo limit l) : lo ≤ i.lo ∧ i.lo < i.hi ∧ i.hi ≤ limit := by
  induction l generalizing lo with
  | nil =>
    simp only [gaps] at h
    split at h <;> simp at h
    subst h
    exact ⟨Nat.le_refl _, ‹_›, Nat.le_refl _⟩
  | cons j rest ih =>
    rw [gaps_cons, List.mem_append] at h
    rcases h with h | h
    · split at h <;> simp at h
      subst h
      refine ⟨Nat.le_refl _, ‹_›, Nat.min_le_right ..⟩
    · have := ih h
      omega

theorem gaps_ascending {lo limit : Nat} {l : List Interval} (hl : l.Pairwise (·.hi ≤ ·.lo))
    (hn : ∀ i ∈ l, i.lo < i.hi) : (gaps lo limit l).Pairwise (·.hi ≤ ·.lo) := by
  induction l generalizing lo with
  | nil =>
    simp only [gaps]
    split <;> simp
  | cons i rest ih =>
    obtain ⟨-, hrest⟩ := List.pairwise_cons.1 hl
    have hi := hn i (by simp)
    rw [gaps_cons, List.pairwise_append]
    refine ⟨by split <;> simp, ih hrest fun j hj => hn j (by simp [hj]), fun j hj k hk => ?_⟩
    have hk := bounds_of_mem_gaps hk
    split at hj <;> simp at hj
    subst hj
    simp only
    omega

/-- The gaps hold the ordinals of the window outside the list. -/
theorem covers_gaps {lo limit x : Nat} {l : List Interval} (hl : l.Pairwise (·.hi ≤ ·.lo))
    (hn : ∀ i ∈ l, i.lo < i.hi) :
    covers (gaps lo limit l) x = true ↔ lo ≤ x ∧ x < limit ∧ covers l x = false := by
  induction l generalizing lo with
  | nil =>
    simp only [gaps]
    split <;> simp [covers]
    omega
  | cons i rest ih =>
    obtain ⟨hi, hrest⟩ := List.pairwise_cons.1 hl
    have hne := hn i (by simp)
    have hih := @ih (max lo i.hi) hrest fun j hj => hn j (by simp [hj])
    have hrestx : covers rest x = true → i.hi ≤ x := by
      rw [covers_iff]
      rintro ⟨j, hj, hx⟩
      have := hi j hj
      omega
    simp only [← Bool.not_eq_true] at hih ⊢
    rw [gaps_cons, covers_append, hih, covers_cons]
    -- the head of the list leaves the piece in front of it free, the rest has what lies behind it
    have hpiece : covers (if lo < min i.lo limit then [⟨lo, min i.lo limit⟩] else []) x = true ↔
        lo ≤ x ∧ x < i.lo ∧ x < limit := by
      split
      · simp only [covers_cons, covers_nil, Bool.false_eq_true, or_false]
        omega
      · simp only [covers_nil, Bool.false_eq_true, false_iff]
        omega
    rw [hpiece]
    by_cases hc : covers rest x = true
    · have := hrestx hc
      simp only [hc, not_true_eq_false, and_false, or_true, or_false, iff_false]
      omega
    · simp only [hc, Bool.false_eq_true, or_false, not_false_eq_true, and_true]
      omega

end Polymatch.Interval
