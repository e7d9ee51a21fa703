import Polymatch.Conventional.Pattern
import Polymatch.Proofs.Pattern.Atoms

/-! # Numbering groups while an expression is translated

The translation of an expression carries the path to the innermost group and the number
of the next group there, and cuts classes down to the basic plane. So the pattern of an
expression is orderly.
-/

namespace Polymatch.Conventional.Expr

open Pattern

variable {e : Expr} {p : Pattern}

mutual

/-- Literals are runs of bytes, and classes of bytes name bytes. -/
def HoldsBytes : Expr → Prop
  | literal bytes => ∀ b ∈ bytes, b < 256
  | byteClass ranges => ∀ i ∈ ranges, i.hi ≤ 256
  | repetition _ _ _ sub => HoldsBytes sub
  | capture _ sub => HoldsBytes sub
  | concat subs => AllHoldBytes subs
  | alternation subs => AllHoldBytes subs
  | _ => True

def AllHoldBytes : List Expr → Prop
  | [] => True
  | e :: rest => HoldsBytes e ∧ AllHoldBytes rest

end

theorem bare_literalPattern {bytes : List Nat} (h : ∀ b ∈ bytes, b < 256) : (literalPattern bytes).Bare := by
  rw [literalPattern]
  split
  · refine bare_units fun n hn => ?_
    obtain ⟨c, -, hn⟩ := List.mem_flatMap.1 hn
    exact lt_of_mem_charUnits hn
  · exact bare_units fun b hb => Nat.lt_trans (h b hb) (by decide)

theorem bounded_basicRanges (ranges : List Interval) : Bounded (basicRanges ranges) :=
  List.forall_mem_map.2 fun _ _ => Nat.min_le_right ..

theorem bare_scalarPattern {ranges : List Interval} (h : scalarPattern ranges = .ok p) : p.Bare := by
  simp only [scalarPattern] at h
  split at h
  · cases h
  · cases h
    exact bare_ofRanges (bounded_basicRanges ranges)

section Translation

variable {path : Label} {first next : Nat}

/-- A repetition without a greatest number of rounds becomes a loop, and another one a counted pattern if the
number is within the limit. -/
theorem patternWithin_repetition {min : Nat} {max? : Option Nat} {greedy : Bool} {sub : Expr}
    (h : patternWithin path first (.repetition min max? greedy sub) = .ok (p, next)) :
    ∃ body, patternWithin path first sub = .ok (body, next) ∧ (max? = none ∧ p = .loop body min .plain ∨
      ∃ max ≤ maxRepeat, max? = some max ∧ p = body.times (List.range' min (max + 1 - min))) := by
  rw [patternWithin] at h
  cases hsub : patternWithin path first sub with
  | error fault =>
    rw [hsub] at h
    cases h
  | ok r =>
    rw [hsub] at h
    cases max? with
    | none =>
      cases h
      exact ⟨r.1, rfl, .inl ⟨rfl, rfl⟩⟩
    | some max =>
      dsimp only at h
      split at h
      · cases h
      · rename_i hmax
        cases h
        exact ⟨r.1, rfl, .inr ⟨max, Nat.le_of_not_lt hmax, rfl, rfl⟩⟩

theorem patternWithin_capture {index : Nat} {sub : Expr}
    (h : patternWithin path first (.capture index sub) = .ok (p, next)) :
    ∃ body inside, patternWithin (path ++ [first]) 0 sub = .ok (body, inside) ∧
      p = .group (path ++ [first]) body ∧ next = first + 1 := by
  rw [patternWithin] at h
  cases hsub : patternWithin (path ++ [first]) 0 sub with
  | error fault =>
    rw [hsub] at h
    cases h
  | ok r =>
    rw [hsub] at h
    cases h
    exact ⟨r.1, r.2, rfl, rfl, rfl⟩

theorem patternsWithin_cons {rest : List Expr} {ps : List Pattern}
    (h : patternsWithin path first (e :: rest) = .ok (ps, next)) :
    ∃ p between later, patternWithin path first e = .ok (p, between) ∧
      patternsWithin path between rest = .ok (later, next) ∧ ps = p :: later := by
  rw [patternsWithin] at h
  cases he : patternWithin path first e with
  | error fault =>
    rw [he] at h
    cases h
  | ok r =>
    rw [he] at h
    obtain ⟨⟨later, _⟩, hlater, heq⟩ := map_eq_ok.1 h
    cases heq
    exact ⟨r.1, r.2, later, rfl, hlater, rfl⟩

end Translation

mutual

theorem orderly_patternWithin : ∀ (e : Expr) {path : Label} {first next : Nat} {p : Pattern}, e.HoldsBytes →
    patternWithin path first e = .ok (p, next) → p.Orderly path first next
  | empty, _, _, _, _ => fun _ h => by
    cases h
    rfl
  | literal bytes, path, first, _, _ => fun hbytes h => by
    cases h
    exact bare_literalPattern hbytes path first
  | scalarClass ranges, path, first, _, _ => fun _ h => by
    obtain ⟨p, hp, heq⟩ := map_eq_ok.1 h
    cases heq
    exact bare_scalarPattern hp path first
  | byteClass ranges, path, first, _, _ => fun hbytes h => by
    cases h
    exact bare_ofRanges (fun i hi => Nat.le_trans (hbytes i hi) (by decide)) path first
  | look assertion, _, _, _, _ => fun _ h => nomatch h
  | repetition min max? greedy sub, path, first, _, _ => fun hbytes h => by
    obtain ⟨body, hsub, ⟨-, rfl⟩ | ⟨max, -, -, rfl⟩⟩ := patternWithin_repetition h
    · have hbody := orderly_patternWithin sub hbytes hsub
      exact hbody
    · exact (orderly_patternWithin sub hbytes hsub).times _
  | capture index sub, path, first, _, _ => fun hbytes h => by
    obtain ⟨body, inside, hsub, rfl, rfl⟩ := patternWithin_capture h
    exact ⟨rfl, rfl, inside, orderly_patternWithin sub hbytes hsub⟩
  | concat subs, _, _, _, _ => fun hbytes h => by
    obtain ⟨⟨ps, _⟩, hps, heq⟩ := map_eq_ok.1 h
    cases heq
    exact orderly_inOrder (orderly_patternsWithin subs hbytes hps)
  | alternation subs, _, _, _, _ => fun hbytes h => by
    obtain ⟨⟨ps, _⟩, hps, heq⟩ := map_eq_ok.1 h
    cases heq
    exact orderly_oneOf (orderly_patternsWithin subs hbytes hps)

theorem orderly_patternsWithin : ∀ (subs : List Expr) {path : Label} {first next : Nat} {ps : List Pattern},
    AllHoldBytes subs → patternsWithin path first subs = .ok (ps, next) → AllOrderly ps path first next
  | [], _, _, _, _ => fun _ h => by
    cases h
    rfl
  | e :: rest, path, first, _, _ => fun hbytes h => by
    obtain ⟨p, between, later, he, hrest, rfl⟩ := patternsWithin_cons h
    exact ⟨between, orderly_patternWithin e hbytes.1 he, orderly_patternsWithin rest hbytes.2 hrest⟩

end

theorem exists_orderly_of_toPattern (hbytes : e.HoldsBytes) (h : e.toPattern = .ok p) :
    ∃ next, p.Orderly [] 0 next := by
  obtain ⟨⟨_, next⟩, hp, rfl⟩ := map_eq_ok.1 h
  exact ⟨next, orderly_patternWithin e hbytes hp⟩

end Polymatch.Conventional.Expr
