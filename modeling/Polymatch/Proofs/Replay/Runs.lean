import Polymatch.Proofs.Replay.Spread

/-! # Runs of a program

A run goes from an address through forks and consumed ordinals to the end of the
input. A replay keeps a thread for every address where a run may stand, so it
finds groups exactly if some thread has a run through the rest of the input.
-/

namespace Polymatch

namespace Program

/-- Some code accepts the whole of an input from an address on, in a number of steps. -/
inductive Runs (code : Array Instr) : Nat → Nat → List Nat → Prop
  | accept {a : Nat} : code[a]? = some .accept → Runs code 0 a []
  | fork {n a c : Nat} {w : List Nat} {i : Instr} : code[a]? = some i → c ∈ i.forks → Runs code n c w →
      Runs code (n + 1) a w
  | consume {n a next x : Nat} {w : List Nat} {ranges : List Interval} :
      code[a]? = some (.symbols ranges next) → Interval.covers ranges x = true → Runs code n next w →
      Runs code (n + 1) a (x :: w)

variable {p : Program} {pos n : Nat} {w : List Nat} {threads : List Thread} {t : Thread}

theorem getD_code {a : Nat} {i : Instr} (h : p.code[a]? = some i) : p.code.getD a default = i := by
  rw [Array.getD_eq_getD_getElem?, h, Option.getD_some]

theorem lt_of_getElem? {code : Array Instr} {a : Nat} {i : Instr} (h : code[a]? = some i) :
    a < code.size :=
  (Array.getElem?_eq_some_iff.1 h).1

theorem getElem?_code {a : Nat} (h : ¬ p.Outside a) : p.code[a]? = some (p.code.getD a default) := by
  have hlt : a < p.code.size := Nat.lt_of_not_le h
  rw [Array.getD_eq_getD_getElem?, Array.getElem?_eq_getElem hlt, Option.getD_some]

/-- A thread rests at an address of the program. -/
structure Resting (p : Program) (t : Thread) : Prop where
  rest : p.rest t = [t]
  inside : ¬ p.Outside t.address

theorem Resting.forks (h : p.Resting t) : (p.code.getD t.address default).forks = [] := by
  have hrest := h.rest
  rw [Program.rest] at hrest
  cases hi : p.code.getD t.address default with
  | accept => rfl
  | symbols ranges next => rfl
  | split first second => simp [hi] at hrest
  | opening group next => simp [hi] at hrest
  | closing group next => simp [hi] at hrest

theorem resting_closure : ∀ t ∈ p.closure pos threads, p.Resting t := by
  obtain ⟨seen, h⟩ := p.spreads_closure pos threads
  exact fun t ht => ⟨(h.of_mem_out t ht).1, (h.of_mem_out t ht).2⟩

theorem forall_closure {holds : Thread → Prop} (hfork : ∀ t, holds t → ∀ t' ∈ p.fork pos t, holds t')
    (h : ∀ t ∈ threads, holds t) : ∀ t ∈ p.closure pos threads, holds t := by
  obtain ⟨seen, hspread⟩ := p.spreads_closure pos threads
  exact hspread.forall_out hfork h

/-- The runs that some threads have go on where the threads come to rest. -/
theorem exists_runs_closure : (∃ t ∈ p.closure pos threads, ∃ n, Runs p.code n t.address w) ↔
    ∃ t ∈ threads, ∃ n, Runs p.code n t.address w := by
  constructor
  · rintro ⟨t, ht, n, hrun⟩
    have hback : ∀ t ∈ p.closure pos threads, ∀ n, Runs p.code n t.address w →
        ∃ t ∈ threads, ∃ n, Runs p.code n t.address w := by
      refine forall_closure (fun t ht t' ht' n hrun => ?_) fun t ht n hrun => ⟨t, ht, n, hrun⟩
      have hfork : t'.address ∈ (p.code.getD t.address default).forks := by
        rw [← map_fork p pos]
        exact List.mem_map_of_mem ht'
      by_cases hout : p.Outside t.address
      · rw [Array.getD_eq_getD_getElem?, Array.getElem?_eq_none hout] at hfork
        exact nomatch hfork
      · exact ht (n + 1) (.fork (getElem?_code hout) hfork hrun)
    exact hback t ht n hrun
  · rintro ⟨t, ht, n, hrun⟩
    obtain ⟨seen, hspread⟩ := p.spreads_closure pos threads
    obtain ⟨-, hpending, hclosed⟩ := hspread.closed
    have hforward : ∀ {n a w}, Runs p.code n a w → seen a →
        ∃ t ∈ p.closure pos threads, ∃ n, Runs p.code n t.address w := by
      intro n a w hrun
      induction hrun with
      | accept hi =>
        intro ha
        rcases hclosed _ ha with hout | ⟨-, hrest⟩
        · exact absurd (lt_of_getElem? hi) (Nat.not_lt_of_le hout)
        · obtain ⟨t, ht, rfl⟩ := hrest (by rw [getD_code hi]; rfl)
          exact ⟨t, ht, 0, .accept hi⟩
      | fork hi hc _ ih =>
        intro ha
        rcases hclosed _ ha with hout | ⟨hforks, -⟩
        · exact absurd (lt_of_getElem? hi) (Nat.not_lt_of_le hout)
        · exact ih (hforks _ (by rwa [getD_code hi]))
      | consume hi hx hrun _ =>
        intro ha
        rcases hclosed _ ha with hout | ⟨-, hrest⟩
        · exact absurd (lt_of_getElem? hi) (Nat.not_lt_of_le hout)
        · obtain ⟨t, ht, rfl⟩ := hrest (by rw [getD_code hi]; rfl)
          exact ⟨t, ht, _, .consume hi hx hrun⟩
    exact hforward hrun (hpending t ht)

theorem consume?_eq_some {x : Nat} {t' : Thread} : p.consume? x t = some t' ↔
    ∃ ranges next, p.code.getD t.address default = .symbols ranges next ∧
      Interval.covers ranges x = true ∧ t' = { t with address := next } := by
  rw [consume?]
  cases p.code.getD t.address default with
  | symbols ranges next =>
    simp only [Option.ite_none_right_eq_some, Option.some.injEq, Instr.symbols.injEq]
    constructor
    · rintro ⟨hx, rfl⟩
      exact ⟨ranges, next, ⟨rfl, rfl⟩, hx, rfl⟩
    · rintro ⟨_, _, ⟨rfl, rfl⟩, hx, rfl⟩
      exact ⟨hx, rfl⟩
  | accept => simp
  | split first second => simp
  | opening group next => simp
  | closing group next => simp

theorem advance_eq (p : Program) (pos x : Nat) (threads : List Thread) :
    p.advance pos x threads = p.closure (pos + 1) (threads.filterMap (p.consume? x)) := rfl

theorem replayFrom_nil_threads (p : Program) (pos : Nat) (w : List Nat) : p.replayFrom pos w [] = none := by
  cases w with
  | nil => rfl
  | cons x w => rfl

theorem replayFrom_cons (p : Program) (pos x : Nat) (w : List Nat) (threads : List Thread) :
    p.replayFrom pos (x :: w) threads = p.replayFrom (pos + 1) w (p.advance pos x threads) := by
  rw [replayFrom]
  split
  · rename_i h
    rw [h, replayFrom_nil_threads]
  · rfl

/-- A replay finds groups if some thread has a run through the rest of the input. -/
theorem isSome_replayFrom (hrest : ∀ t ∈ threads, p.Resting t) :
    (p.replayFrom pos w threads).isSome = true ↔ ∃ t ∈ threads, ∃ n, Runs p.code n t.address w := by
  induction w generalizing pos threads with
  | nil =>
    rw [replayFrom, Option.isSome_map, List.find?_isSome]
    refine exists_congr fun t => and_congr_right fun ht => ?_
    have hi := getElem?_code (hrest t ht).inside
    rw [beq_iff_eq]
    constructor
    · intro h
      rw [h] at hi
      exact ⟨0, .accept hi⟩
    · rintro ⟨n, hrun⟩
      cases hrun with
      | accept hi => exact getD_code hi
      | fork hi hc _ =>
        have hforks := (hrest t ht).forks
        rw [getD_code hi] at hforks
        rw [hforks] at hc
        exact nomatch hc
  | cons x w ih =>
    rw [replayFrom_cons, ih (by rw [advance_eq]; exact resting_closure), advance_eq, exists_runs_closure]
    constructor
    · rintro ⟨_, ht', n, hrun⟩
      obtain ⟨t, ht, hc⟩ := List.mem_filterMap.1 ht'
      obtain ⟨ranges, next, hi, hx, rfl⟩ := consume?_eq_some.1 hc
      have hcode := getElem?_code (hrest t ht).inside
      rw [hi] at hcode
      exact ⟨t, ht, n + 1, .consume hcode hx hrun⟩
    · rintro ⟨t, ht, n, hrun⟩
      cases hrun with
      | fork hi hc _ =>
        have hforks := (hrest t ht).forks
        rw [getD_code hi] at hforks
        rw [hforks] at hc
        exact nomatch hc
      | consume hi hx hrun =>
        exact ⟨_, List.mem_filterMap.2 ⟨t, ht, consume?_eq_some.2 ⟨_, _, getD_code hi, hx, rfl⟩⟩, _, hrun⟩

end Program

end Polymatch
