import Polymatch.Matcher.Scan
import Polymatch.Proofs.Group.Recording

/-! # Accepting places

A scan passes the places where some pattern accepts from left to right. Seen from
one pattern they are the places where its own run accepts, and the recording there
has taken the edges of that run.
-/

namespace Polymatch

namespace Automaton

variable {a : Automaton} {i : Nat} {c : Cursor} {r : Recording} {pos : Nat} {rest w : List Nat}
  {exit : Marks} {P : Nat → Marks → Recording → Prop}

/-- From a state, the pattern accepts an input with the marks of a trace and of an exit. -/
def Halts (a : Automaton) (i s : Nat) (w : List Nat) (t : List (Nat × Marks)) (exit : Marks) : Prop :=
  ∃ s', a.trace? i s w = some (t, s') ∧ i ∈ (a.node s').accept ∧ (a.node s').exit = exit

theorem halts_nil {s : Nat} {t : List (Nat × Marks)} :
    a.Halts i s [] t exit ↔ t = [] ∧ i ∈ (a.node s).accept ∧ (a.node s).exit = exit := by
  simp only [Halts, trace?, Option.some.injEq, Prod.mk.injEq]
  constructor
  · rintro ⟨s', ⟨rfl, rfl⟩, h⟩
    exact ⟨rfl, h⟩
  · rintro ⟨rfl, h⟩
    exact ⟨s, ⟨rfl, rfl⟩, h⟩

theorem halts_cons {s x : Nat} {t : List (Nat × Marks)} : a.Halts i s (x :: w) t exit ↔
    ∃ k t', a.follow? i s x = some k ∧ t = (x, k.marks) :: t' ∧ a.Halts i k.next w t' exit := by
  simp only [Halts, trace?, Option.bind_eq_some_iff, Option.map_eq_some_iff, Prod.mk.injEq]
  constructor
  · rintro ⟨s', ⟨k, hk, ⟨t', s''⟩, ht, rfl, rfl⟩, h⟩
    exact ⟨k, t', hk, rfl, s'', ht, h⟩
  · rintro ⟨k, t', hk, rfl, s', ht, h⟩
    exact ⟨s', ⟨k, hk, (t', s'), ht, rfl, rfl⟩, h⟩

/-- Where a pattern accepts in front of an input: with which trace and marks, and how far on. -/
def HaltsWithin (a : Automaton) (i s pos : Nat) (r : Recording) (rest : List Nat)
    (P : Nat → Marks → Recording → Prop) : Prop :=
  ∃ n ≤ rest.length, ∃ t exit, a.Halts i s (rest.take n) t exit ∧ P (pos + n) exit (r.record pos t)

theorem haltsWithin_nil {s : Nat} :
    a.HaltsWithin i s pos r [] P ↔ i ∈ (a.node s).accept ∧ P pos (a.node s).exit r := by
  simp only [HaltsWithin, List.length_nil, Nat.le_zero, exists_eq_left, List.take_nil, halts_nil]
  constructor
  · rintro ⟨_, _, ⟨rfl, hi, rfl⟩, hP⟩
    exact ⟨hi, hP⟩
  · rintro ⟨hi, hP⟩
    exact ⟨[], _, ⟨rfl, hi, rfl⟩, hP⟩

theorem haltsWithin_cons {s x : Nat} : a.HaltsWithin i s pos r (x :: rest) P ↔
    (i ∈ (a.node s).accept ∧ P pos (a.node s).exit r) ∨
      ∃ k, a.follow? i s x = some k ∧ a.HaltsWithin i k.next (pos + 1) (r.update k.marks pos) rest P := by
  constructor
  · rintro ⟨_ | n, hn, t, exit, ht, hP⟩
    · exact .inl (haltsWithin_nil.1 ⟨0, Nat.le_refl _, t, exit, ht, hP⟩)
    · obtain ⟨k, t', hk, rfl, ht'⟩ := halts_cons.1 ht
      refine .inr ⟨k, hk, n, Nat.le_of_succ_le_succ hn, t', exit, ht', ?_⟩
      rwa [Nat.add_right_comm]
  · rintro (h | ⟨k, hk, n, hn, t, exit, ht, hP⟩)
    · obtain ⟨n, hn, t, exit, ht, hP⟩ := haltsWithin_nil.2 h
      obtain rfl := Nat.le_zero.1 hn
      exact ⟨0, Nat.zero_le _, t, exit, ht, hP⟩
    · refine ⟨n + 1, Nat.succ_le_succ hn, _, exit, halts_cons.2 ⟨k, t, hk, rfl, ht⟩, ?_⟩
      rwa [Nat.add_right_comm] at hP

/-- A pattern accepts at one of some places, where something holds. -/
def StopsAt (stops : List Stop) (i : Nat) (P : Nat → Marks → Recording → Prop) : Prop :=
  ∃ st ∈ stops, i ∈ st.accepted ∧ P st.stop st.exit st.recording

theorem stopsAt_append {l l' : List Stop} : StopsAt (l ++ l') i P ↔ StopsAt l i P ∨ StopsAt l' i P := by
  simp only [StopsAt, List.mem_append, or_and_right, exists_or]

theorem stopsAt_here : StopsAt (stopsFrom.here a c r pos) i P ↔
    i ∈ c.live ∧ i ∈ (a.node c.state).accept ∧ P pos (a.node c.state).exit r := by
  have hmem : i ∈ a.acceptedAt c ↔ i ∈ (a.node c.state).accept ∧ i ∈ c.live := SortedSet.mem_inter
  simp only [StopsAt, stopsFrom.here]
  split
  · rename_i h
    rw [SortedSet.isEmpty_iff] at h
    simp only [List.not_mem_nil, false_and, exists_false, false_iff]
    rintro ⟨hl, ha, -⟩
    exact h i (hmem.2 ⟨ha, hl⟩)
  · simp only [List.mem_singleton, exists_eq_left, hmem]
    rw [and_comm (a := i ∈ (a.node c.state).accept), and_assoc]

/-- The places of a scan where a pattern accepts are those where its own run accepts. -/
theorem stopsAt_stopsFrom : StopsAt (a.stopsFrom c r pos rest) i P ↔
    i ∈ c.live ∧ a.HaltsWithin i c.state pos r rest P := by
  induction rest generalizing c r pos with
  | nil => rw [stopsFrom, stopsAt_here, haltsWithin_nil]
  | cons x rest ih =>
    rw [stopsFrom, stopsAt_append, stopsAt_here, haltsWithin_cons, and_or_left]
    refine or_congr_right ?_
    cases hstep : a.step? c x with
    | none =>
      constructor
      · rintro ⟨st, hst, -⟩
        exact nomatch hst
      · rintro ⟨hl, k, hk, -⟩
        obtain ⟨hlink, hr⟩ := follow?_eq_some.1 hk
        rw [step?_eq_some.2 ⟨k, hlink, ⟨i, SortedSet.mem_inter.2 ⟨hl, hr⟩⟩, rfl, rfl⟩] at hstep
        exact nomatch hstep
    | some next =>
      obtain ⟨k, hk, -, hc, hm⟩ := step?_eq_some.1 hstep
      obtain ⟨c', marks⟩ := next
      subst hc hm
      rw [ih, SortedSet.mem_inter, and_assoc]
      refine and_congr_right fun _ => ⟨?_, ?_⟩
      · rintro ⟨hr, h⟩
        exact ⟨k, follow?_eq_some.2 ⟨hk, hr⟩, h⟩
      · rintro ⟨k', hk', h⟩
        obtain ⟨hlink, hr⟩ := follow?_eq_some.1 hk'
        obtain rfl := Option.some.inj (hk.symm.trans hlink)
        exact ⟨hr, h⟩

theorem stopsAt_stops {input : List Nat} {start : Nat} : StopsAt (a.stops input start) i P ↔
    i < a.patterns ∧ a.HaltsWithin i a.start start ∅ (input.drop start) P := by
  rw [stops, stopsAt_stopsFrom]
  simp only [initial, routes, IdSet.mem_range]

theorem here_eq (a : Automaton) (c : Cursor) (r : Recording) (pos : Nat) :
    stopsFrom.here a c r pos = [] ∨ ∃ st : Stop, stopsFrom.here a c r pos = [st] ∧ st.stop = pos := by
  rw [stopsFrom.here]
  split
  · exact .inl rfl
  · exact .inr ⟨_, rfl, rfl⟩

theorem stop_of_mem_here {st : Stop} (h : st ∈ stopsFrom.here a c r pos) : st.stop = pos := by
  rcases here_eq a c r pos with hnil | ⟨st', hst, hpos⟩
  · rw [hnil] at h
    exact nomatch h
  · rw [hst] at h
    rw [List.mem_singleton.1 h, hpos]

theorem le_of_mem_stopsFrom {st : Stop} (h : st ∈ a.stopsFrom c r pos rest) :
    pos ≤ st.stop ∧ st.stop ≤ pos + rest.length := by
  induction rest generalizing c r pos with
  | nil =>
    rw [stop_of_mem_here h]
    exact ⟨Nat.le_refl _, Nat.le_refl _⟩
  | cons x rest ih =>
    rw [stopsFrom, List.mem_append] at h
    rw [List.length_cons]
    rcases h with h | h
    · rw [stop_of_mem_here h]
      omega
    · split at h
      · exact nomatch h
      · have := ih h
        omega

/-- The scan passes its places from left to right. -/
theorem stopsFrom_ascending (a : Automaton) (c : Cursor) (r : Recording) (pos : Nat) (rest : List Nat) :
    (a.stopsFrom c r pos rest).Pairwise (·.stop < ·.stop) := by
  have hhere : ∀ c r pos, (stopsFrom.here a c r pos).Pairwise (·.stop < ·.stop) := by
    intro c r pos
    rcases here_eq a c r pos with hnil | ⟨st, hst, -⟩
    · rw [hnil]
      exact .nil
    · rw [hst]
      exact List.pairwise_singleton ..
  induction rest generalizing c r pos with
  | nil => exact hhere c r pos
  | cons x rest ih =>
    rw [stopsFrom, List.pairwise_append]
    refine ⟨hhere c r pos, ?_, fun st hst st' hst' => ?_⟩
    · split
      · exact .nil
      · exact ih ..
    · rw [stop_of_mem_here hst]
      split at hst'
      · exact nomatch hst'
      · exact Nat.lt_of_lt_of_le (Nat.lt_succ_self pos) (le_of_mem_stopsFrom hst').1

end Automaton

end Polymatch
