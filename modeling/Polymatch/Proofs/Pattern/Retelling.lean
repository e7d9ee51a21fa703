import Polymatch.Proofs.Pattern.Spelling
import Polymatch.Proofs.Replay.Tracks

/-! # Walks behind what is spelled

Whatever the behaviour of a pattern spells, some walk through the pattern spells it. An
exclusive loop leaves walks out, but it has none of its own.
-/

namespace Polymatch

namespace Behaviour

variable {P Q : Behaviour} {policy : LoopPolicy} {t : Trace} {e : Marks}

/-- Both sides of a choice only lose what they spell. -/
theorem spells_of_choose (h : (choose policy P Q).spells t e) : P.spells t e ∨ Q.spells t e := by
  cases policy with
  | plain => exact h
  | extending => exact h.imp_right And.right
  | limiting => exact (h.imp_right And.right).symm

end Behaviour

namespace Event

open Behaviour
open Program (Copied Looped Moving moving_nil)

variable {layout : Layout} {way way' way'' : List Event → Prop} {F G : Context} {P Q : Behaviour}
  {policy : LoopPolicy} {s : Spelling}

theorem exists_of_spells_overlay {added : Marks} (h : (P.overlay added).spells s.1 s.2) :
    ∃ s' : Spelling, P.spells s'.1 s'.2 ∧ overlay added s' = s := by
  obtain ⟨_ | ⟨⟨x, M⟩, t⟩, e⟩ := s
  · obtain ⟨exit, hexit, rfl⟩ := h
    exact ⟨([], exit), hexit, rfl⟩
  · obtain ⟨marks, hmarks, rfl⟩ := h
    exact ⟨((x, marks) :: t, e), hmarks, rfl⟩

/-- What a context spells is one of some ways in front of what the tail spells. -/
def Retells (layout : Layout) (way : List Event → Prop) (F : Context) : Prop :=
  ∀ (P Q : Behaviour) (s : Spelling), (F P Q).spells s.1 s.2 → ∃ es s', way es ∧ spellAll layout es s' = s ∧
    (word es = [] → P.spells s'.1 s'.2) ∧ (word es ≠ [] → Q.spells s'.1 s'.2)

namespace Retells

theorem mono (h : Retells layout way F) (hway : ∀ es, way es → way' es) : Retells layout way' F := by
  intro P Q s hs
  obtain ⟨es, s', hes, hspell, hP, hQ⟩ := h P Q s hs
  exact ⟨es, s', hway es hes, hspell, hP, hQ⟩

theorem comp (hF : Retells layout way F) (hG : Retells layout way' G)
    (hway : ∀ es es', way es → way' es' → way'' (es ++ es')) :
    Retells layout way'' (fun P Q => F (G P Q) (G Q Q)) := by
  intro P Q s hs
  obtain ⟨es, s, hes, rfl, hfirst, hlater⟩ := hF _ _ _ hs
  by_cases hw : word es = []
  · obtain ⟨es', s', hes', rfl, hP, hQ⟩ := hG P Q s (hfirst hw)
    refine ⟨es ++ es', s', hway _ _ hes hes', spellAll_append .., fun h => hP (word_append_eq_nil.1 h).2, ?_⟩
    exact fun h => hQ fun hw' => h (word_append_eq_nil.2 ⟨hw, hw'⟩)
  · obtain ⟨es', s', hes', rfl, hP, hQ⟩ := hG Q Q s (hlater hw)
    refine ⟨es ++ es', s', hway _ _ hes hes', spellAll_append .., fun h => absurd (word_append_eq_nil.1 h).1 hw, ?_⟩
    exact fun _ => (em (word es' = [])).elim hP hQ

theorem either (hF : Retells layout way F) (hG : Retells layout way G) :
    Retells layout way (fun P Q => either (F P Q) (G P Q)) := fun P Q s hs => hs.elim (hF P Q s) (hG P Q s)

end Retells

theorem retells_nil (h : way []) : Retells layout way fun P _ => P := fun _ _ s hs =>
  ⟨[], s, h, rfl, fun _ => hs, fun hw => absurd rfl hw⟩

theorem retells_copies (hF : Retells layout way F) (mayEnd : Nat → Bool) (first n : Nat) :
    Retells layout (Copied way mayEnd first n) (copies F mayEnd (List.range' first n)) := by
  induction n generalizing first with
  | zero => exact retells_nil ⟨[], List.forall_mem_nil _, .inl rfl, rfl⟩
  | succ n ih =>
    have hround : Retells layout (Copied way mayEnd first (n + 1)) _ := hF.comp (ih (first + 1)) fun _ _ => Copied.cons
    rw [List.range'_succ]
    intro P Q s hs
    simp only [copies] at hs
    split at hs
    · rename_i hend
      have hstop : Copied way mayEnd first (n + 1) [] :=
        ⟨[], List.forall_mem_nil _, .inr ⟨Nat.succ_pos n, hend⟩, rfl⟩
      exact hs.elim (hround P Q s) (retells_nil hstop P Q s)
    · exact hround P Q s hs

/-- A body between its opening and its closing, where the tail spells what is left once the body is closed. -/
theorem Retells.group (h : Retells layout way F) (label : Label) (nullable : Bool) :
    Retells layout (fun es' => ∃ es, way es ∧ .opening label :: (es ++ [.closing label nullable]) = es')
      fun P Q => (F (if nullable then P.overlay (.closing (layout.slotOf label) false) else P)
        (if nullable then Q.overlay (.closing (layout.slotOf label) false) else Q)).overlay
          (.opening (layout.slotOf label)) := by
  have hending : ∀ {R : Behaviour} {s : Spelling},
      (if nullable then R.overlay (.closing (layout.slotOf label) false) else R).spells s.1 s.2 →
        ∃ s', R.spells s'.1 s'.2 ∧ spellAll layout [.closing label nullable] s' = s := by
    intro R s hs
    cases nullable with
    | false => exact ⟨s, hs, rfl⟩
    | true => exact exists_of_spells_overlay hs
  have hword : ∀ es, word (.opening label :: (es ++ [.closing label nullable])) = word es := by
    intro es
    rw [← List.cons_append, word_append]
    exact List.append_nil _
  have hspell : ∀ es s, spellAll layout (.opening label :: (es ++ [.closing label nullable])) s =
      overlay (.opening (layout.slotOf label)) (spellAll layout es (spellAll layout [.closing label nullable] s)) := by
    intro es s
    rw [spellAll, List.foldr_cons, ← spellAll, spellAll_append]
    rfl
  intro P Q s hs
  obtain ⟨inner, hinner, rfl⟩ := exists_of_spells_overlay hs
  obtain ⟨es, s, hes, rfl, hfirst, hlater⟩ := h _ _ inner hinner
  by_cases hw : word es = []
  · obtain ⟨s', hs', rfl⟩ := hending (hfirst hw)
    exact ⟨_, s', ⟨es, hes, rfl⟩, hspell es s', fun _ => hs', fun hne => absurd ((hword es).trans hw) hne⟩
  · obtain ⟨s', hs', rfl⟩ := hending (hlater hw)
    exact ⟨_, s', ⟨es, hes, rfl⟩, hspell es s', fun hnil => absurd ((hword es).symm.trans hnil) hw, fun _ => hs'⟩

/-- A loop that has moved spells rounds that read symbols. -/
theorem exists_rounds_of_fixed (hguard : Guarded F) (hF : Retells layout way F)
    (h : (fixed F policy Q).spells s.1 s.2) :
    ∃ es s', Moving way es ∧ spellAll layout es s' = s ∧ Q.spells s'.1 s'.2 := by
  induction hn : s.1.length using Nat.strongRecOn generalizing s with
  | ind n ih =>
    subst hn
    rw [fixed_eq hguard] at h
    rcases spells_of_choose h with h | h
    · obtain ⟨es, s', hes, rfl, hnone, hmore⟩ := hF _ _ _ h
      have hmove : word es ≠ [] := hnone
      have hshorter : s'.1.length < (spellAll layout es s').1.length := by
        have hlength := congrArg List.length (map_spellAll layout es s')
        have := List.length_pos_iff.2 hmove
        rw [List.length_append, List.length_map, List.length_map] at hlength
        omega
      obtain ⟨es', s'', hrounds, rfl, hs''⟩ := ih _ hshorter (hmore hmove) rfl
      exact ⟨es ++ es', s'', hrounds.cons hes hmove, spellAll_append .., hs''⟩
    · exact ⟨[], s, moving_nil way, rfl, h⟩

theorem retells_entry (hguard : Guarded F) (hF : Retells layout way F) :
    Retells layout (Moving way) (entry F policy) := by
  intro P Q s hs
  rcases spells_of_choose hs with hs | hs
  · obtain ⟨es, s, hes, rfl, hnone, hmore⟩ := hF _ _ _ hs
    have hmove : word es ≠ [] := hnone
    obtain ⟨es', s', hrounds, rfl, hs'⟩ := exists_rounds_of_fixed hguard hF (hmore hmove)
    refine ⟨es ++ es', s', hrounds.cons hes hmove, spellAll_append .., fun hw => ?_, fun _ => hs'⟩
    exact absurd (word_append_eq_nil.1 hw).1 hmove
  · exact retells_nil (moving_nil way) P Q s hs

theorem retells_loop (hguard : Guarded F) (hF : Retells layout way F) (min : Nat) :
    Retells layout (Looped way min) (loop F min policy) := by
  have hentry : Retells layout (Moving way) (entry F policy) := retells_entry hguard hF
  cases min with
  | zero =>
    refine hentry.mono ?_
    rintro _ ⟨rounds, hrounds, hmoves, rfl⟩
    exact ⟨[], rounds, rfl, List.forall_mem_nil _, hrounds, hmoves, rfl⟩
  | succ min =>
    -- behind the last copy that is demanded, the loop is entered
    have hlast : Retells layout (fun es' => ∃ es rounds, way es ∧ Moving way rounds ∧ es ++ rounds = es')
        fun P Q => F (entry F policy P Q) (entry F policy Q Q) :=
      hF.comp hentry fun es rounds hes hrounds => ⟨es, rounds, hes, hrounds, rfl⟩
    have hall : Retells layout (Looped way (min + 1)) fun P Q => copies F (fun _ => false) (List.range' 0 min)
        (F (entry F policy P Q) (entry F policy Q Q)) (F (entry F policy Q Q) (entry F policy Q Q)) := by
      refine (retells_copies hF (fun _ => false) 0 min).comp hlast ?_
      rintro _ _ ⟨copies, hcopies, hlength, rfl⟩ ⟨es, _, hes, ⟨rounds, hrounds, hmoves, rfl⟩, rfl⟩
      refine ⟨copies ++ [es], rounds, ?_, List.forall_mem_append.2 ⟨hcopies, List.forall_mem_singleton.2 hes⟩,
        hrounds, hmoves, ?_⟩
      · rw [List.length_append, List.length_singleton, hlength.resolve_right fun h => nomatch h.2]
      · rw [List.flatten_append, List.flatten_singleton, List.append_assoc]
    have hagain : ∀ Q : Behaviour, entry F policy Q Q = fixed F policy Q := fun Q => (fixed_eq hguard Q).symm
    simp only [hagain, ← List.range_eq_range'] at hall
    exact hall

end Event

namespace Pattern

open Behaviour Event

variable {σ : Alphabet} {layout : Layout}

mutual

/-- A pattern spells walks through the pattern, whatever the policies of its loops. -/
theorem retells_behave : ∀ (p : Pattern) (owed : Marks), p.Ascending →
    (∀ label ∈ p.labels, label ∈ layout.labels) → Retells layout (p.Walk layout owed) (p.behave σ layout owed)
  | symbols ranges, owed, _, _ => by
    rintro P Q ⟨_ | ⟨⟨x, M⟩, t⟩, e⟩ hs
    · exact hs.elim
    · obtain ⟨⟨hx, -⟩, rfl, hs⟩ := hs
      exact ⟨[.read x M], (t, e), .symbols hx, rfl, nofun, fun _ => hs⟩
  | sequence items, owed, hp, hl => retells_behaveSequence items owed hp hl
  | select branches, owed, hp, hl => retells_behaveEach branches owed hp hl
  | counted body counts, owed, hp, hl => by
    have hcopies := retells_copies (retells_behave body owed hp.1 hl) (hasCount counts) 0 (counts.getLastD 0)
    rw [← List.range_eq_range'] at hcopies
    refine hcopies.mono ?_
    rintro _ ⟨copies, hwalks, hlength, rfl⟩
    rw [Nat.zero_add] at hlength
    exact .counted ((mem_counts_iff hp.2.1 hp.2.2).2 hlength) hwalks
  | loop body min policy, owed, hp, hl => by
    refine (retells_loop (guarded_behave σ layout owed body) (retells_behave body owed hp hl) min).mono ?_
    rintro _ ⟨copies, rounds, rfl, hwalks, hrounds, hmoves, rfl⟩
    exact .loop hwalks hrounds hmoves
  | optional body, owed, hp, hl =>
    ((retells_behave body owed hp hl).mono fun _ => .take).either (retells_nil .skip)
  | group label body, owed, hp, hl => by
    obtain ⟨hlabel, hl⟩ := List.forall_mem_cons.1 hl
    have hslot := Layout.slotOf?_of_mem hlabel
    have hbody := retells_behave body (owed ∪ .closing (layout.slotOf label) true) hp hl
    intro P Q s hs
    simp only [behave, hslot] at hs
    refine (hbody.group label body.nullable).mono ?_ P Q s hs
    rintro _ ⟨es, hes, rfl⟩
    exact .group hlabel hes

theorem retells_behaveSequence : ∀ (items : List Pattern) (owed : Marks), AllAscending items →
    (∀ label ∈ allLabels items, label ∈ layout.labels) →
      Retells layout (Walk layout (.sequence items) owed) (behaveSequence σ layout items owed)
  | [], _, _, _ => retells_nil .nil
  | item :: rest, owed, hp, hl => by
    have hl := List.forall_mem_append.1 hl
    exact (retells_behave item _ hp.1 hl.1).comp (retells_behaveSequence rest owed hp.2 hl.2) fun _ _ => .cons

theorem retells_behaveEach : ∀ (branches : List Pattern) (owed : Marks), AllAscending branches →
    (∀ label ∈ allLabels branches, label ∈ layout.labels) →
      Retells layout (Walk layout (.select branches) owed) (behaveEach σ layout branches owed)
  | [], _, _, _ => fun _ _ _ hs => hs.elim
  | branch :: rest, owed, hp, hl => by
    have hl := List.forall_mem_append.1 hl
    refine ((retells_behave branch owed hp.1 hl.1).mono fun _ => .select List.mem_cons_self).either ?_
    refine (retells_behaveEach rest owed hp.2 hl.2).mono fun es hwalk => ?_
    cases hwalk with
    | select hb hwalk => exact .select (List.mem_cons_of_mem branch hb) hwalk

end

/-- A walk spells what a pattern means. -/
theorem exists_walk_of_spells {p : Pattern} (hp : p.Ascending) (hl : ∀ label ∈ p.labels, label ∈ layout.labels)
    {t : Trace} {e : Marks} (h : (p.meaning σ layout).spells t e) :
    ∃ es, Walk layout p ∅ es ∧ spellAll layout es ([], ∅) = (t, e) := by
  obtain ⟨es, ⟨t', e'⟩, hes, hspell, hfirst, hlater⟩ := retells_behave p ∅ hp hl _ _ (t, e) h
  obtain ⟨rfl, rfl⟩ : t' = [] ∧ e' = ∅ := (em (word es = [])).elim hfirst hlater
  exact ⟨es, hes, hspell⟩

end Pattern

end Polymatch
