import Polymatch.Proofs.Matcher.Alternatives
import Polymatch.Proofs.Merge.Paths

/-! # Alternatives and merged paths

The branches of an alternative are compiled in front of one tail, where their loops
and the unions of their nodes are resolved together. Merging the paths of the branches
walks through tables that are finished. Both accept the same inputs.
-/

namespace Polymatch.Pattern

variable {σ : Alphabet} {bs : List Pattern} {p q : Pattern} {a : Automaton} {layout : Layout} {w : List Nat}
  {i : Nat}

theorem overlapFromLeft?_eq_none_iff : overlapFromLeft? σ bs = none ↔ ∀ b ∈ bs, b.overlap? σ = none := by
  refine ⟨fun ho b => overlap?_of_mem ho, fun h => ?_⟩
  induction bs with
  | nil => rfl
  | cons b bs ih =>
    obtain ⟨hb, hbs⟩ := List.forall_mem_cons.1 h
    rw [overlapFromLeft?, hb, ih hbs]
    rfl

theorem exists_compile_iff (hl : p.labels.Nodup) : (∃ a, p.compile σ = .ok a) ↔ p.overlap? σ = none :=
  ⟨fun ⟨_, h⟩ => (compile_eq_ok_iff.1 h).1, fun ho => ⟨_, compile_of_nodup ho hl⟩⟩

/-- An alternative with distinct labels compiles exactly if all of its branches do. -/
theorem exists_compile_select_iff (hl : (select bs).labels.Nodup) :
    (∃ s, (select bs).compile σ = .ok s) ↔ ∀ b ∈ bs, ∃ a, b.compile σ = .ok a := by
  rw [exists_compile_iff hl]
  refine overlapFromLeft?_eq_none_iff.trans (forall₂_congr fun b hb => ?_)
  rw [exists_compile_iff (hl.sublist (labels_sublist hb))]

/-- An alternative reads what one of its branches reads. -/
theorem mem_reads_select : w ∈ ((select bs).meaning σ layout).reads ↔
    ∃ b ∈ bs, w ∈ (b.meaning σ layout).reads := by
  simp only [Behaviour.mem_reads, meaning, behave, spells_behaveEach]
  constructor
  · rintro ⟨t, e, rfl, b, hb, hspells⟩
    exact ⟨b, hb, t, e, rfl, hspells⟩
  · rintro ⟨b, hb, t, e, rfl, hspells⟩
    exact ⟨t, e, rfl, b, hb, hspells⟩

/-- The automaton of a pattern accepts for the one id what the pattern reads under any layout. -/
theorem Compiled.mem_accepts_iff (h : Compiled σ layout p a) (layout' : Layout) :
    i ∈ a.accepts w ↔ i = 0 ∧ w ∈ (p.meaning σ layout').reads := by
  rw [← (mirrors_meaning σ layout layout' p).reads, Behaviour.mem_reads, ← h.accepts]
  constructor
  · intro hi
    have hlt := Automaton.lt_of_mem_accepts hi
    rw [h.patterns, Nat.lt_one_iff] at hlt
    exact ⟨hlt, hlt ▸ hi⟩
  · rintro ⟨rfl, hi⟩
    exact hi

/-- Compiling an alternative and merging the paths of its compiled branches succeed together and
give automata that accept the same inputs. -/
theorem accepts_select_eq_mergePath (hl : (select [p, q]).labels.Nodup) :
    ((∃ s, (select [p, q]).compile σ = .ok s) ↔ (∃ a, p.compile σ = .ok a) ∧ ∃ b, q.compile σ = .ok b) ∧
      ∀ s a b, (select [p, q]).compile σ = .ok s → p.compile σ = .ok a → q.compile σ = .ok b →
        ∀ w, s.accepts w = (a.mergePath b).accepts w := by
  refine ⟨by simpa using exists_compile_select_iff hl, fun s a b hs ha hb w => SortedSet.ext_mem fun i => ?_⟩
  have hunion := (Automaton.sound_of_compile ha).accepts_union (Automaton.sound_of_compile hb) w
  have hbranch := (compiled_of_compile ha).mem_accepts_iff (i := i) (w := w) ⟨(select [p, q]).labels, 0⟩
  have hbranch' := (compiled_of_compile hb).mem_accepts_iff (i := i) (w := w) ⟨(select [p, q]).labels, 0⟩
  rw [hunion, SortedSet.mem_union, hbranch, hbranch', ← and_or_left,
    (compiled_of_compile hs).mem_accepts_iff ⟨(select [p, q]).labels, 0⟩, mem_reads_select]
  simp only [List.mem_cons, List.not_mem_nil, or_false, exists_eq_or_imp, exists_eq_left]

/-- A letter in a group, behind a loop of the letter. -/
def letterBehind (policy : LoopPolicy) (label : Label) : Pattern :=
  .sequence [.loop (.symbols [⟨97, 98⟩]) 0 policy, .group label (.symbols [⟨97, 98⟩])]

/-- One branch keeps every letter in its loop, and the other takes the first one for its group. -/
theorem accepts_select_eq_mergePath_letterBehind : ∃ s a b,
    (select [letterBehind .extending [0], letterBehind .limiting [1]]).compile .bytes = .ok s ∧
      (letterBehind .extending [0]).compile .bytes = .ok a ∧
      (letterBehind .limiting [1]).compile .bytes = .ok b ∧
      ∀ w, s.accepts w = (a.mergePath b).accepts w := by
  have hl : (select [letterBehind .extending [0], letterBehind .limiting [1]]).labels.Nodup := by decide
  have hs := compile_of_nodup (σ := .bytes) (by decide +kernel) hl
  have ha := compile_of_nodup (σ := .bytes) (p := letterBehind .extending [0]) (by decide +kernel) (by decide)
  have hb := compile_of_nodup (σ := .bytes) (p := letterBehind .limiting [1]) (by decide +kernel) (by decide)
  exact ⟨_, _, _, hs, ha, hb, (accepts_select_eq_mergePath hl).2 _ _ _ hs ha hb⟩

end Polymatch.Pattern
