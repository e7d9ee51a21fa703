import Mathlib.Data.List.Forall2
import Polymatch.Proofs.Automaton.Runs

/-! # Embedded automata

An automaton lives on inside a larger one when its states have counterparts there
whose edges and ends treat its patterns, moved up, in the same way. The larger
automaton may have more edges and more patterns. It carries the slots of the
smaller one when the counterparts also bear the same marks on them.
-/

namespace Polymatch.Automaton

def SameIds (ids patterns : Nat) (small large : IdSet) : Prop :=
  ∀ i < patterns, i + ids ∈ large ↔ i ∈ small

/-- The marks on the slots of one automaton, as a larger one numbers them. -/
def SameMarks (slots captures : Nat) (small large : Marks) : Prop :=
  ∀ slot < captures, ∀ b, ⟨slot + slots, b⟩ ∈ large ↔ ⟨slot, b⟩ ∈ small

/-- The same ordinals, with the same marks on the slots of the smaller automaton. -/
def SameTrace (slots captures : Nat) (small large : List (Nat × Marks)) : Prop :=
  List.Forall₂ (fun x y => x.1 = y.1 ∧ SameMarks slots captures x.2 y.2) small large

theorem SameIds.trans {ids ids' patterns patterns' : Nat} {s t u : IdSet} (h : SameIds ids patterns s t)
    (h' : SameIds ids' patterns' t u) (hle : patterns + ids ≤ patterns') :
    SameIds (ids + ids') patterns s u := by
  intro i hi
  rw [← h i hi, ← h' (i + ids) (by omega), Nat.add_assoc]

theorem SameMarks.trans {slots slots' captures captures' : Nat} {s t u : Marks}
    (h : SameMarks slots captures s t) (h' : SameMarks slots' captures' t u)
    (hle : captures + slots ≤ captures') : SameMarks (slots + slots') captures s u := by
  intro slot hslot b
  rw [← h slot hslot b, ← h' (slot + slots) (by omega) b, Nat.add_assoc]

/-- `R` relates the states of `m` to those of `a` that they continue. -/
structure Embeds (a m : Automaton) (ids : Nat) (R : Nat → Nat → Prop) : Prop where
  start : R m.start a.start
  patterns_le : a.patterns + ids ≤ m.patterns
  link : ∀ {k s x : Nat} {c : Link}, R k s → (a.node s).edges.link? x = some c →
    ∃ j, (m.node k).edges.link? x = some j ∧ R j.next c.next ∧ SameIds ids a.patterns c.routes j.routes
  stuck : ∀ {k s x i : Nat} {j : Link}, R k s → (a.node s).edges.link? x = none →
    (m.node k).edges.link? x = some j → i < a.patterns → i + ids ∉ j.routes
  accept : ∀ {k s : Nat}, R k s → SameIds ids a.patterns (a.node s).accept (m.node k).accept

/-- The edges and ends of `m` bear the marks of those of `a` that they continue. -/
structure Carries (a m : Automaton) (slots : Nat) (R : Nat → Nat → Prop) : Prop where
  captures_le : a.captures + slots ≤ m.captures
  link : ∀ {k s x : Nat} {c j : Link}, R k s → (a.node s).edges.link? x = some c →
    (m.node k).edges.link? x = some j → SameMarks slots a.captures c.marks j.marks
  exit : ∀ {k s : Nat}, R k s → SameMarks slots a.captures (a.node s).exit (m.node k).exit

variable {a m m' : Automaton} {ids ids' slots slots' : Nat} {R R' : Nat → Nat → Prop}

theorem embeds_refl (a : Automaton) : Embeds a a 0 Eq where
  start := rfl
  patterns_le := Nat.le_refl _
  link := by
    rintro k _ x c rfl hc
    exact ⟨c, hc, rfl, fun _ _ => Iff.rfl⟩
  stuck := by
    rintro k _ x i j rfl hn hj
    simp [hn] at hj
  accept := by
    rintro k _ rfl i _
    exact Iff.rfl

theorem carries_refl (a : Automaton) : Carries a a 0 Eq where
  captures_le := Nat.le_refl _
  link := by
    rintro k _ x c j rfl hc hj slot _ b
    obtain rfl := Option.some.inj (hc.symm.trans hj)
    exact Iff.rfl
  exit := by
    rintro k _ rfl slot _ b
    exact Iff.rfl

namespace Embeds

theorem follow? (h : Embeds a m ids R) {k s i x : Nat} (hks : R k s) (hi : i < a.patterns) :
    Option.Rel (fun j c => R j.next c.next) (m.follow? (i + ids) k x) (a.follow? i s x) := by
  rw [Automaton.follow?, Automaton.follow?]
  cases hc : (a.node s).edges.link? x with
  | none =>
    cases hj : (m.node k).edges.link? x with
    | none => exact .none
    | some j =>
      have hnot := h.stuck hks hc hj hi
      rw [← SortedSet.contains_iff, Bool.not_eq_true] at hnot
      simp only [Option.filter_some, hnot, Option.filter_none, Bool.false_eq_true, if_false]
      exact .none
  | some c =>
    obtain ⟨j, hj, hR, hids⟩ := h.link hks hc
    have hiff := hids i hi
    rw [← SortedSet.contains_iff, ← SortedSet.contains_iff, ← Bool.eq_iff_iff] at hiff
    simp only [hj, Option.filter_some, hiff]
    split
    · exact .some hR
    · exact .none

/-- A pattern walks in the larger automaton as it does in its own. -/
theorem walk? (h : Embeds a m ids R) {k s i : Nat} (hks : R k s) (hi : i < a.patterns)
    (w : List Nat) : Option.Rel R (m.walk? (i + ids) k w) (a.walk? i s w) := by
  induction w generalizing k s with
  | nil => exact .some hks
  | cons x w ih =>
    simp only [Automaton.walk?]
    have hf := h.follow? hks hi (x := x)
    generalize m.follow? (i + ids) k x = j? at hf
    generalize a.follow? i s x = c? at hf
    cases hf with
    | none => exact .none
    | some hR => exact ih hR

/-- Inside the larger automaton a pattern accepts what it accepts in its own. -/
theorem mem_accepts (h : Embeds a m ids R) {i : Nat} (hi : i < a.patterns) (w : List Nat) :
    i + ids ∈ m.accepts w ↔ i ∈ a.accepts w := by
  have hlt : i + ids < m.patterns := Nat.lt_of_lt_of_le (Nat.add_lt_add_right hi ids) h.patterns_le
  simp only [Automaton.mem_accepts, hi, hlt, true_and]
  have hw := h.walk? h.start hi w
  generalize m.walk? (i + ids) m.start w = k? at hw
  generalize a.walk? i a.start w = s? at hw
  cases hw with
  | none => simp
  | some hR => simpa using h.accept hR i hi

theorem trans (h : Embeds a m ids R) (h' : Embeds m m' ids' R') :
    Embeds a m' (ids + ids') fun k s => ∃ l, R' k l ∧ R l s where
  start := ⟨m.start, h'.start, h.start⟩
  patterns_le := by
    have := h.patterns_le
    have := h'.patterns_le
    omega
  link := by
    rintro k s x c ⟨l, hkl, hls⟩ hc
    obtain ⟨j, hj, hR, hids⟩ := h.link hls hc
    obtain ⟨j', hj', hR', hids'⟩ := h'.link hkl hj
    exact ⟨j', hj', ⟨j.next, hR', hR⟩, hids.trans hids' h.patterns_le⟩
  stuck := by
    rintro k s x i j' ⟨l, hkl, hls⟩ hs hj' hi
    have hlt := Nat.lt_of_lt_of_le (Nat.add_lt_add_right hi ids) h.patterns_le
    rw [← Nat.add_assoc]
    cases hj : (m.node l).edges.link? x with
    | none => exact h'.stuck hkl hj hj' hlt
    | some j =>
      obtain ⟨j'', hj'', -, hids'⟩ := h'.link hkl hj
      obtain rfl : j'' = j' := Option.some.inj (hj''.symm.trans hj')
      rw [hids' (i + ids) hlt]
      exact h.stuck hls hs hj hi
  accept := by
    rintro k s ⟨l, hkl, hls⟩
    exact (h.accept hls).trans (h'.accept hkl) h.patterns_le

/-- A pattern meets its marks in the larger automaton as it does in its own. -/
theorem trace? (h : Embeds a m ids R) (hc : Carries a m slots R) {k s i : Nat} (hks : R k s)
    (hi : i < a.patterns) (w : List Nat) :
    Option.Rel (fun large small => SameTrace slots a.captures small.1 large.1 ∧ R large.2 small.2)
      (m.trace? (i + ids) k w) (a.trace? i s w) := by
  induction w generalizing k s with
  | nil => exact .some ⟨.nil, hks⟩
  | cons x w ih =>
    simp only [Automaton.trace?]
    have hf := h.follow? hks hi (x := x)
    cases hj : m.follow? (i + ids) k x with
    | none =>
      cases hs : a.follow? i s x with
      | none => exact .none
      | some c =>
        rw [hj, hs] at hf
        cases hf
    | some j =>
      cases hs : a.follow? i s x with
      | none =>
        rw [hj, hs] at hf
        cases hf
      | some c =>
        rw [hj, hs] at hf
        cases hf with
        | some hR =>
          have hmarks := hc.link hks (follow?_eq_some.1 hs).1 (follow?_eq_some.1 hj).1
          have hrest := ih hR
          rw [Option.bind_some, Option.bind_some]
          generalize m.trace? (i + ids) j.next w = large? at hrest
          generalize a.trace? i c.next w = small? at hrest
          cases hrest with
          | none => exact .none
          | some hrest => exact .some ⟨.cons ⟨rfl, hmarks⟩ hrest.1, hrest.2⟩

end Embeds

theorem Carries.trans (h : Carries a m slots R) (h' : Carries m m' slots' R') (he : Embeds a m ids R) :
    Carries a m' (slots + slots') fun k s => ∃ l, R' k l ∧ R l s where
  captures_le := by
    have := h.captures_le
    have := h'.captures_le
    omega
  link := by
    rintro k s x c j' ⟨l, hkl, hls⟩ hc hj'
    obtain ⟨j, hj, -, -⟩ := he.link hls hc
    exact (h.link hls hc hj).trans (h'.link hkl hj hj') h.captures_le
  exit := by
    rintro k s ⟨l, hkl, hls⟩
    exact (h.exit hls).trans (h'.exit hkl) h.captures_le

end Polymatch.Automaton
