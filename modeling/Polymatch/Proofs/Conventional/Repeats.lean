import Mathlib
import Polymatch.Proofs.Conventional.Numbering
import Polymatch.Proofs.Pattern.Repeats

/-! # Limits on the repetitions of conventional expressions

An expression with a repetition of too many rounds has no pattern, provided that the
repetition has a greatest number of rounds. A repetition without one becomes a loop, and
its least number of rounds is never compared with the limit. So these numbers alone decide
whether a pattern stays within the limit, and with it how often the compiler copies a body.
-/

namespace Polymatch

open Pattern (maxRepeat repetitions)

namespace Pattern

/-- Wherever the repetition is compiled, its body is not attached more often than the limit. -/
def Frugal (q : Pattern) : Prop := ∀ (σ : Alphabet) (layout : Layout) (tail : Nat) (owed : Marks) (g : Arena),
  (q.tallied σ layout tail owed g).copies ≤ maxRepeat

theorem frugal_of_numbers {q : Pattern} (h : ∀ n ∈ q.numbers, n ≤ maxRepeat) : q.Frugal := by
  intro σ layout tail owed g
  rw [copies_tallied]
  exact rounds_le (by decide) h

/-- The least number of rounds, if the pattern is a loop. -/
def minimum? : Pattern → Option Nat
  | loop _ min _ => some min
  | _ => none

end Pattern

namespace Conventional.Expr

mutual

/-- The least numbers of rounds of all repetitions without a greatest one, outer ones in front of those
inside. -/
def openMinimums : Expr → List Nat
  | repetition min none _ sub => min :: sub.openMinimums
  | repetition _ (some _) _ sub => sub.openMinimums
  | capture _ sub => sub.openMinimums
  | concat subs => allOpenMinimums subs
  | alternation subs => allOpenMinimums subs
  | _ => []

def allOpenMinimums : List Expr → List Nat
  | [] => []
  | e :: rest => e.openMinimums ++ allOpenMinimums rest

end

/-- The loops among some repetitions have these least numbers of rounds, and all counts are within the limit. -/
structure Repeats (minimums : List Nat) (qs : List Pattern) : Prop where
  minimums_eq : qs.filterMap Pattern.minimum? = minimums
  counts : ∀ body counts, .counted body counts ∈ qs → ∀ n ∈ counts, n ≤ maxRepeat

namespace Repeats

variable {minimums others : List Nat} {qs rs : List Pattern}

theorem nil : Repeats [] [] := ⟨rfl, nofun⟩

theorem append (h : Repeats minimums qs) (h' : Repeats others rs) : Repeats (minimums ++ others) (qs ++ rs) where
  minimums_eq := by rw [List.filterMap_append, h.minimums_eq, h'.minimums_eq]
  counts body counts hq := (List.mem_append.1 hq).elim (h.counts body counts) (h'.counts body counts)

theorem loop (h : Repeats minimums qs) (body : Pattern) (min : Nat) (policy : LoopPolicy) :
    Repeats (min :: minimums) (.loop body min policy :: qs) where
  minimums_eq := by
    have hloop : Pattern.minimum? (.loop body min policy) = some min := rfl
    rw [List.filterMap_cons_some hloop, h.minimums_eq]
  counts body counts hq := by
    rcases List.mem_cons.1 hq with heq | hq
    · cases heq
    · exact h.counts body counts hq

theorem counted (h : Repeats minimums qs) (body : Pattern) {counts : List Nat} (hcounts : ∀ n ∈ counts, n ≤ maxRepeat) :
    Repeats minimums (.counted body counts :: qs) where
  minimums_eq := by
    have hcounted : Pattern.minimum? (.counted body counts) = none := rfl
    rw [List.filterMap_cons_none hcounted, h.minimums_eq]
  counts body counts hq := by
    rcases List.mem_cons.1 hq with heq | hq
    · cases heq
      exact hcounts
    · exact h.counts body counts hq

theorem mem_minimums_iff (h : Repeats minimums qs) {min : Nat} :
    min ∈ minimums ↔ ∃ body policy, .loop body min policy ∈ qs := by
  rw [← h.minimums_eq, List.mem_filterMap]
  constructor
  · rintro ⟨q, hq, hmin⟩
    cases q with
    | loop body min policy =>
      cases hmin
      exact ⟨body, policy, hq⟩
    | _ => cases hmin
  · rintro ⟨body, policy, hq⟩
    exact ⟨_, hq, rfl⟩

end Repeats

theorem repetitions_literalPattern (bytes : List Nat) : (literalPattern bytes).repetitions = [] := by
  unfold literalPattern
  split
  · exact (Pattern.repetitions_inOrder _).trans (Pattern.allRepetitions_symbols _)
  · exact (Pattern.repetitions_inOrder _).trans (Pattern.allRepetitions_symbols _)

theorem repetitions_scalarPattern {ranges : List Interval} {p : Pattern} (h : scalarPattern ranges = .ok p) :
    p.repetitions = [] := by
  unfold scalarPattern at h
  dsimp only at h
  split at h
  · cases h
  · cases h
    rfl

/-- Counts up to a greatest one. -/
theorem le_of_mem_counts {min max n : Nat} (hmax : max ≤ maxRepeat)
    (hn : n ∈ Pattern.normalCounts (List.range' min (max + 1 - min))) : n ≤ maxRepeat := by
  apply Pattern.le_of_mem_normalCounts _ hn
  intro k hk
  obtain ⟨hmin, hlt⟩ := List.mem_range'_1.1 hk
  omega

mutual

theorem repeats_patternWithin : ∀ (e : Expr) {path : Label} {first next : Nat} {p : Pattern},
    patternWithin path first e = .ok (p, next) → Repeats e.openMinimums p.repetitions
  | empty, _, _, _, _ => fun h => by
    cases h
    exact .nil
  | literal bytes, _, _, _, _ => fun h => by
    cases h
    rw [repetitions_literalPattern]
    exact .nil
  | scalarClass ranges, _, _, _, _ => fun h => by
    obtain ⟨p, hp, heq⟩ := map_eq_ok.1 h
    cases heq
    rw [repetitions_scalarPattern hp]
    exact .nil
  | byteClass ranges, _, _, _, _ => fun h => by
    cases h
    exact .nil
  | look assertion, _, _, _, _ => fun h => nomatch h
  | repetition min max? greedy sub, path, first, _, _ => fun h => by
    obtain ⟨body, hsub, ⟨rfl, rfl⟩ | ⟨max, hmax, rfl, rfl⟩⟩ := patternWithin_repetition h
    · exact (repeats_patternWithin sub hsub).loop body min .plain
    · exact (repeats_patternWithin sub hsub).counted body fun n hn => le_of_mem_counts hmax hn
  | capture index sub, path, first, _, _ => fun h => by
    obtain ⟨body, inside, hsub, rfl, -⟩ := patternWithin_capture h
    have hbody := repeats_patternWithin sub hsub
    exact hbody
  | concat subs, _, _, _, _ => fun h => by
    obtain ⟨⟨ps, _⟩, hps, heq⟩ := map_eq_ok.1 h
    cases heq
    rw [Pattern.repetitions_inOrder]
    exact repeats_patternsWithin subs hps
  | alternation subs, _, _, _, _ => fun h => by
    obtain ⟨⟨ps, _⟩, hps, heq⟩ := map_eq_ok.1 h
    cases heq
    rw [Pattern.repetitions_oneOf]
    exact repeats_patternsWithin subs hps

theorem repeats_patternsWithin : ∀ (subs : List Expr) {path : Label} {first next : Nat} {ps : List Pattern},
    patternsWithin path first subs = .ok (ps, next) → Repeats (allOpenMinimums subs) (Pattern.allRepetitions ps)
  | [], _, _, _, _ => fun h => by
    cases h
    exact .nil
  | e :: rest, path, first, _, _ => fun h => by
    obtain ⟨p, between, later, he, hrest, rfl⟩ := patternsWithin_cons h
    exact (repeats_patternWithin e he).append (repeats_patternsWithin rest hrest)

end

theorem repeats_of_toPattern {e : Expr} {p : Pattern} (h : e.toPattern = .ok p) :
    Repeats e.openMinimums p.repetitions := by
  obtain ⟨⟨_, next⟩, hp, rfl⟩ := map_eq_ok.1 h
  exact repeats_patternWithin e hp

section Limits

variable {p : Pattern} {minimums : List Nat} (h : Repeats minimums p.repetitions)
include h

theorem Repeats.limited (hminimums : ∀ min ∈ minimums, min ≤ maxRepeat) : p.Limited := by
  intro q hq n hn
  cases q with
  | counted body counts => exact h.counts body counts hq n hn
  | loop body min policy =>
    rw [List.mem_singleton.1 hn]
    exact hminimums min (h.mem_minimums_iff.2 ⟨body, policy, hq⟩)
  | _ => cases hn

theorem Repeats.limited_iff : p.Limited ↔ ∀ min ∈ minimums, min ≤ maxRepeat := by
  refine ⟨fun hp min hmin => ?_, h.limited⟩
  obtain ⟨body, policy, hq⟩ := h.mem_minimums_iff.1 hmin
  exact hp _ hq min (List.mem_singleton_self min)

theorem Repeats.frugal_iff : (∀ q ∈ p.repetitions, q.Frugal) ↔ ∀ min ∈ minimums, min ≤ maxRepeat := by
  refine ⟨fun hp min hmin => ?_, fun hminimums q hq => Pattern.frugal_of_numbers (h.limited hminimums q hq)⟩
  obtain ⟨body, policy, hq⟩ := h.mem_minimums_iff.1 hmin
  have hcopies := hp _ hq .bytes default 0 ∅ .new
  rw [Pattern.copies_tallied] at hcopies
  exact Nat.le_trans (Nat.le_max_right 1 min) hcopies

end Limits

/-- The pattern is that of a text or of an expression. Listed are the numbers of its repetitions that nothing has
compared with the limit: none in a text. -/
inductive Unchecked : Pattern → List Nat → Prop
  | text {text : String} {options : Pattern.ParseOptions} {p : Pattern} :
    Pattern.parse text options = .ok p → Unchecked p []
  | expression {e : Expr} {p : Pattern} : e.toPattern = .ok p → Unchecked p e.openMinimums

/-- The pattern of a text or of an expression stays within the limit, and no repetition in it makes the compiler
copy its body more often, exactly if the least numbers of rounds do that an expression gives to repetitions
without a greatest one. Counted repetitions always stay within the limit. -/
theorem limited_iff_unchecked {p : Pattern} {minimums : List Nat} (h : Unchecked p minimums) :
    (p.Limited ↔ ∀ min ∈ minimums, min ≤ maxRepeat) ∧
    ((∀ q ∈ p.repetitions, q.Frugal) ↔ ∀ min ∈ minimums, min ≤ maxRepeat) ∧
    ∀ body counts, .counted body counts ∈ p.repetitions →
      (∀ n ∈ counts, n ≤ maxRepeat) ∧ (Pattern.counted body counts).Frugal := by
  cases h with
  | text h =>
    have hlimited : p.Limited := Pattern.limited_of_parse h
    have hfrugal : ∀ q ∈ p.repetitions, q.Frugal := fun q hq => Pattern.frugal_of_numbers (hlimited q hq)
    refine ⟨iff_of_true hlimited (List.forall_mem_nil _), iff_of_true hfrugal (List.forall_mem_nil _), ?_⟩
    exact fun body counts hq => ⟨hlimited _ hq, hfrugal _ hq⟩
  | expression h =>
    have hrepeats := repeats_of_toPattern h
    refine ⟨hrepeats.limited_iff, hrepeats.frugal_iff, fun body counts hq => ?_⟩
    have hcounts := hrepeats.counts body counts hq
    exact ⟨hcounts, Pattern.frugal_of_numbers hcounts⟩

/-- A letter in at least so many rounds. -/
def letterRounds (rounds : Nat) : Expr := .repetition rounds none true (.literal [0x61])

theorem limited_iff_unchecked_letterRounds :
    ∃ p q r, Pattern.parse "(a{1000,}){2,3}" ⟨false⟩ = .ok p ∧ (letterRounds 1000).toPattern = .ok q ∧
      (letterRounds 1001).toPattern = .ok r ∧ p.Limited ∧ q.Limited ∧
      ¬ r.Limited ∧ ¬ ∀ s ∈ r.repetitions, s.Frugal := by
  have hp : Pattern.parse "(a{1000,}){2,3}" ⟨false⟩ =
      .ok (.counted (.group [0] (.loop (.symbol 0x61) 1000 .plain)) [2, 3]) := by
    cbv
  have hq : (letterRounds 1000).toPattern = .ok (.loop (.symbol 0x61) 1000 .plain) := by
    cbv
  have hr : (letterRounds 1001).toPattern = .ok (.loop (.symbol 0x61) 1001 .plain) := by
    cbv
  have hwithin : ∀ min ∈ (letterRounds 1000).openMinimums, min ≤ maxRepeat := by
    decide
  have hbeyond : ¬ ∀ min ∈ (letterRounds 1001).openMinimums, min ≤ maxRepeat := by
    decide
  exact ⟨_, _, _, hp, hq, hr, (limited_iff_unchecked (.text hp)).1.2 (List.forall_mem_nil _),
    (limited_iff_unchecked (.expression hq)).1.2 hwithin, mt (limited_iff_unchecked (.expression hr)).1.1 hbeyond,
    mt (limited_iff_unchecked (.expression hr)).2.1.1 hbeyond⟩

end Conventional.Expr

end Polymatch
