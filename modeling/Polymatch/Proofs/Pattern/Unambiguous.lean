import Polymatch.Proofs.Matcher.Replays

/-! # Unambiguous patterns

Before it is frozen, the arena of a pattern still tells its alternatives apart, and an
input may be spelled along several paths. Only marks that disagree on two edges or two
exits that are resolved together make the automaton ambiguous. If it is not, the marks
agree along paths of any length: all of them are what the run of the automaton meets.
-/

namespace Polymatch

namespace Automaton

variable {a : Automaton} {i s : Nat} {c : Cursor} {w : List Nat} {t : Trace}

/-- Where a run ends, and the marks of the edges on the way. -/
def record? (a : Automaton) : Cursor → List Nat → Option (Trace × Cursor)
  | c, [] => some ([], c)
  | c, x :: w => (a.step? c x).bind fun d => (a.record? d.1 w).map fun r => ((x, d.2) :: r.1, r.2)

theorem map_record? (a : Automaton) (c : Cursor) (w : List Nat) :
    (a.record? c w).map Prod.snd = a.run? c w := by
  induction w generalizing c with
  | nil => rfl
  | cons x w ih =>
    rw [record?, run?_cons]
    cases a.step? c x with
    | none => rfl
    | some d =>
      rw [Option.bind_some, Option.bind_some, Option.map_map, ← ih]
      rfl

/-- The run meets the marks that a pattern alive meets as long as it survives. -/
theorem record?_of_trace? (hi : i ∈ c.live) (h : a.trace? i c.state w = some (t, s)) :
    ∃ c', a.record? c w = some (t, c') ∧ c'.state = s ∧ i ∈ c'.live := by
  induction w generalizing c t with
  | nil =>
    obtain ⟨rfl, rfl⟩ := Prod.mk.inj (Option.some.inj h)
    exact ⟨c, rfl, rfl, hi⟩
  | cons x w ih =>
    obtain ⟨k, hk, h⟩ := Option.bind_eq_some_iff.1 h
    obtain ⟨⟨t, s⟩, ht, hts⟩ := Option.map_eq_some_iff.1 h
    obtain ⟨rfl, rfl⟩ := Prod.mk.inj hts
    obtain ⟨hlink, hroute⟩ := follow?_eq_some.1 hk
    have hlive : i ∈ c.live ∩ k.routes := SortedSet.mem_inter.2 ⟨hi, hroute⟩
    obtain ⟨c', hc', hs, hi'⟩ := ih (c := ⟨k.next, c.live ∩ k.routes⟩) hlive ht
    refine ⟨c', ?_, hs, hi'⟩
    rw [record?, step?_eq_some.2 ⟨k, hlink, ⟨i, hlive⟩, rfl, rfl⟩, Option.bind_some, hc', Option.map_some]

end Automaton

namespace Pattern

open Arena

variable {σ : Alphabet} {p : Pattern} {a : Automaton} {w : List Nat}

/-- The start node of a pattern in its arena, before anything is resolved. -/
def built (p : Pattern) (σ : Alphabet) : Nat × Arena :=
  p.attach σ ⟨p.labels, 0⟩ Arena.terminal ∅ .new

/-- A pattern compiles to what becomes of its arena when it is frozen. -/
theorem eq_freeze_of_compile (h : p.compile σ = .ok a) :
    a = ((p.built σ).2.freeze (p.built σ).1).1.withCaptures (Layout.size ⟨p.labels, 0⟩) :=
  (compile_eq_ok_iff.1 h).2.2

/-- The paths through the arena of a pattern spell what the pattern means. -/
theorem behaviour_built (ho : p.overlap? σ = none) :
    behaviour (p.built σ).2 (fun _ => False) (p.built σ).1 = p.meaning σ ⟨p.labels, 0⟩ := by
  have hattach : Attaches (p.behave σ ⟨p.labels, 0⟩ ∅) fun tail g => p.attach σ ⟨p.labels, 0⟩ tail ∅ g :=
    attaches_attach ∅ ho
  have hgrown := hattach.grown wellFormed_new wellFormed_new.terminal_lt
  have hbehaviour := hattach.behaviour wellFormed_new wellFormed_new.terminal_lt (.refl (p.built σ).2)
    (pending_none .new)
  have hterminal : behaviour (p.built σ).2 (fun _ => False) terminal = .done :=
    behaviour_terminal wellFormed_new hgrown.grows.settles
  rw [hterminal] at hbehaviour
  exact hbehaviour

theorem spells_built (ho : p.overlap? σ = none) {t : Trace} {e : Marks} :
    Spells (p.built σ).2 (fun _ => False) (p.built σ).1 t e ↔ (p.meaning σ ⟨p.labels, 0⟩).spells t e := by
  rw [← behaviour_built ho]
  rfl

/-- If the automaton of a pattern is not ambiguous, its run on an input that it accepts meets the marks
of every path that spells the input through the arena of the pattern, on all the edges and at the end. -/
theorem spells_iff_of_unambiguous (h : p.compile σ = .ok a) (ha : a.ambiguous = false)
    (hw : a.isMatch w = true) :
    a = ((p.built σ).2.freeze (p.built σ).1).1.withCaptures (Layout.size ⟨p.labels, 0⟩) ∧
      ∃ t c, a.record? a.initial w = some (t, c) ∧ 0 ∈ a.acceptedAt c ∧ ∀ t' e, t'.map Prod.fst = w ∧
        Spells (p.built σ).2 (fun _ => False) (p.built σ).1 t' e ↔ t' = t ∧ e = (a.node c.state).exit := by
  have hfreeze := eq_freeze_of_compile h
  obtain ⟨ho, -, rfl⟩ := compile_eq_ok_iff.1 h
  have hc := compiled_automaton ho ⟨p.labels, 0⟩
  have haccepts := (Automaton.isMatch_iff_of_patterns hc.patterns).1 hw
  obtain ⟨t, e, rfl, hsp⟩ := (hc.accepts w).1 haccepts
  obtain ⟨s, hs, rfl⟩ := hc.trace ha t e hsp
  obtain ⟨c, hrecord, rfl, hlive⟩ := Automaton.record?_of_trace? (c := (p.automaton σ ⟨p.labels, 0⟩).initial)
    (IdSet.mem_range.2 (Automaton.lt_of_mem_accepts haccepts)) hs
  refine ⟨hfreeze, t, c, hrecord, ?_, fun t' e => ?_⟩
  · have hrun : (p.automaton σ ⟨p.labels, 0⟩).run? (p.automaton σ ⟨p.labels, 0⟩).initial (t.map Prod.fst) =
        some c := by
      rw [← Automaton.map_record?, hrecord, Option.map_some]
    rwa [Automaton.accepts, hrun] at haccepts
  · rw [spells_built ho]
    constructor
    · rintro ⟨ht, hsp'⟩
      obtain ⟨s, hs', rfl⟩ := hc.trace ha t' e hsp'
      obtain ⟨rfl, rfl⟩ := Prod.mk.inj (Option.some.inj (hs.symm.trans (ht ▸ hs')))
      exact ⟨rfl, rfl⟩
    · rintro ⟨rfl, rfl⟩
      exact ⟨rfl, hsp⟩

/-- A word with two branches for it, in a group, then as many letters as there are, then a group that may
hold one more. -/
def groupedWords : Pattern :=
  sequence [group [0] (select [sequence [symbols [⟨97, 98⟩], symbols [⟨98, 99⟩]],
    sequence [symbols [⟨97, 98⟩], symbols [⟨98, 99⟩]]]), loop (symbols [⟨98, 99⟩]) 0 .extending,
    group [1] (optional (symbols [⟨98, 99⟩]))]

/-- Both branches mark the first group alike, and the second group cannot take the last letter. -/
theorem spells_iff_groupedWords :
    ∃ a, groupedWords.compile .bytes = .ok a ∧ a.ambiguous = false ∧ a.isMatch [97, 98, 98] = true ∧
      ∀ t e, (t.map Prod.fst = [97, 98, 98] ∧
        Spells (groupedWords.built .bytes).2 (fun _ => False) (groupedWords.built .bytes).1 t e) ↔
          t = [(97, .opening 0), (98, .closing 0 true), (98, ∅)] ∧ e = .opening 1 ∪ .closing 1 false := by
  have ho : groupedWords.overlap? .bytes = none := by decide +kernel
  have hcompile := compile_of_nodup ho (show groupedWords.labels.Nodup by decide)
  have hambiguous : (groupedWords.automaton .bytes ⟨groupedWords.labels, 0⟩).ambiguous = false := by
    decide +kernel
  have hmatch : (groupedWords.automaton .bytes ⟨groupedWords.labels, 0⟩).isMatch [97, 98, 98] = true := by
    decide +kernel
  have hrun : ((groupedWords.automaton .bytes ⟨groupedWords.labels, 0⟩).record?
      (groupedWords.automaton .bytes ⟨groupedWords.labels, 0⟩).initial [97, 98, 98]).map
        (fun r => (r.1, ((groupedWords.automaton .bytes ⟨groupedWords.labels, 0⟩).node r.2.state).exit)) =
      some ([(97, .opening 0), (98, .closing 0 true), (98, ∅)], .opening 1 ∪ .closing 1 false) := by
    decide +kernel
  obtain ⟨-, u, c, hrecord, -, hall⟩ := spells_iff_of_unambiguous hcompile hambiguous hmatch
  rw [hrecord, Option.map_some, Option.some.injEq, Prod.mk.injEq] at hrun
  obtain ⟨rfl, hexit⟩ := hrun
  refine ⟨_, hcompile, hambiguous, hmatch, fun t e => ?_⟩
  rw [hall, hexit]

end Pattern

end Polymatch
