import Polymatch.Proofs.Matcher.Alternatives

/-! # Replayed matches

The program of a pattern is emitted from the same tree as its automaton, but by other
rules. It replays every input that the automaton accepts, so a match of a pattern that
has a program takes its groups from the replay. Without exclusive loops the program
replays nothing else.
-/

namespace Polymatch

namespace Pattern

variable {σ : Alphabet} {p : Pattern} {a : Automaton} {layout : Layout} {w : List Nat}

/-- The replay program of a pattern under its own layout. -/
def program (p : Pattern) : Program := .ofPattern p ⟨p.labels, 0⟩

/-- A compiled pattern accepts inputs that it stands for if none of its loops is exclusive. -/
theorem Compiled.mem_lax (h : Compiled σ layout p a) (hw : a.isMatch w = true) : w ∈ p.lax :=
  p.reads_meaning_le ((h.isMatch_iff w).1 hw)

theorem compiled_of_compile (h : p.compile σ = .ok a) : Compiled σ ⟨p.labels, 0⟩ p a := by
  obtain ⟨ho, -, rfl⟩ := compile_eq_ok_iff.1 h
  exact compiled_automaton ho _

/-- Whatever a compiled pattern accepts, its program replays. -/
theorem isSome_captures?_of_isMatch (h : p.compile σ = .ok a) (start : Nat) (hw : a.isMatch w = true) :
    (p.program.captures? start w).isSome = true :=
  (Program.isSome_captures? p _ start w).2 ((compiled_of_compile h).mem_lax hw)

/-- Without exclusive loops, a program replays what the compiled pattern accepts and nothing else. -/
theorem isSome_captures?_iff_isMatch (h : p.compile σ = .ok a) (hp : p.Standard) (start : Nat)
    (hw : σ.Admits w) : (p.program.captures? start w).isSome = true ↔ a.isMatch w = true := by
  refine ⟨fun hsome => ?_, isSome_captures?_of_isMatch h start⟩
  have hreads := denotes_behave (σ := σ) ⟨p.labels, 0⟩ p ∅ (fun _ : True => hp) .done .done w
  rw [Behaviour.reads_done, Behaviour.leading_self, mul_one] at hreads
  rw [(compiled_of_compile h).isMatch_iff]
  exact hreads.2 trivial hw ((Program.isSome_captures? p _ start w).1 hsome)

end Pattern

namespace MatcherBuilder

variable {α : Type} {σ : Alphabet} {b b' : MatcherBuilder α} {m : Matcher α}

/-- Add some patterns, each with the constructor of its values. -/
def withPatterns (b : MatcherBuilder α) (σ : Alphabet) (ps : List (Pattern × Constructor α)) :
    Except BuildError (MatcherBuilder α) :=
  ps.foldlM (fun b p => b.pattern σ p.1 p.2) b

/-- The builder of some patterns holds their entries, in order. -/
theorem entries_of_withPatterns {ps : List (Pattern × Constructor α)} (h : b.withPatterns σ ps = .ok b') :
    ∃ es, List.Forall₂ (fun p e => entry σ p.1 p.2 = .ok e) ps es ∧ (∀ e ∈ es, e.Valid) ∧
      b' = { b with entries := b.entries ++ es } :=
  entries_of_foldlM (fun p => p) h

theorem withPatterns_single {p : Pattern × Constructor α} {e : Entry α} (h : entry σ p.1 p.2 = .ok e)
    (b : MatcherBuilder α) : b.withPatterns σ [p] = .ok { b with entries := b.entries ++ [e] } := by
  rw [withPatterns, List.foldlM_cons, pattern, h]
  rfl

end MatcherBuilder

namespace Matcher

variable {α : Type} {σ : Alphabet} {m : Matcher α} {e : Entry α} {es : List (Entry α)} {i slots start : Nat}
  {input : List Nat} {st : Automaton.Stop} {program : Program} {layout : Layout}

/-- Where a matcher accepts for an entry, the automaton of the entry accepts by itself. -/
theorem Unites.isMatch_of_accepted (hm : m.Unites es) (he : es[i]? = some e) (hv : e.Valid)
    (hst : st ∈ m.automaton.stops input start) (hi : i ∈ st.accepted) :
    e.automaton.isMatch ((input.drop start).take (st.stop - start)) = true := by
  obtain ⟨slots, R, hc⟩ := hm.contains i e he
  have hpos : 0 < e.automaton.patterns := by rw [hv.patterns]; exact Nat.zero_lt_one
  have hat : Automaton.StopsAt (m.automaton.stops input start) i fun stop _ _ => stop = st.stop :=
    ⟨st, hst, hi, rfl⟩
  have halone : e.automaton.HaltsWithin 0 e.automaton.start start ∅ (input.drop start)
      fun stop _ _ => stop = st.stop := by
    have hiff := @Automaton.Embeds.haltsWithin _ _ _ _ _ start _ (fun stop _ _ => stop = st.stop)
      (fun stop _ _ => stop = st.stop) (input.drop start) hc.embeds hc.carries hpos
      fun _ _ _ _ _ _ _ => Iff.rfl
    rw [Nat.zero_add] at hiff
    exact hiff.1 (Automaton.stopsAt_stops.1 hat).2
  obtain ⟨n, -, t, exit, ht, hn⟩ := halone
  rw [← hn, Nat.add_sub_cancel_left]
  exact Automaton.isMatch_of_halts hpos ht

/-- The groups of a match come from the replay where there is one. -/
theorem capturedAt_of_captures? {c : Captured} (hp : m.programs[i]? = some (some program))
    (hc : program.captures? start ((input.drop start).take (st.stop - start)) = some c) (layout : Layout) :
    m.capturedAt input start st i layout = c := by
  rw [capturedAt, hp]
  simp only [Option.getD_some, Option.bind_some, hc]

/-- Every match of a pattern has the groups that a program replays on its span. -/
def Replays (m : Matcher α) (i : Nat) (program : Program) : Prop :=
  ∀ input start, ∀ st ∈ m.automaton.stops input start, i ∈ st.accepted → ∀ layout,
    program.captures? start ((input.drop start).take (st.stop - start)) =
      some (m.capturedAt input start st i layout)

/-- A program of a matcher is the one of its pattern, and its replay never fails on a match. -/
theorem Unites.replays {ps : List (Pattern × Constructor α)} {p : Pattern × Constructor α}
    (hm : m.Unites es) (hes : List.Forall₂ (fun p e => MatcherBuilder.entry σ p.1 p.2 = .ok e) ps es)
    (hi : ps[i]? = some p) (hprogram : m.programs[i]? = some (some program)) :
    program = p.1.program ∧ m.Replays i program := by
  obtain ⟨hlength, hget⟩ := List.forall₂_iff_get.1 hes
  obtain ⟨hlt, rfl⟩ := List.getElem?_eq_some_iff.1 hi
  have he := List.getElem?_eq_getElem (hlength ▸ hlt : i < es.length)
  have hentry := hget i hlt (hlength ▸ hlt)
  simp only [List.get_eq_getElem] at hentry
  obtain ⟨-, hlayout, -, hc, -, hdecided⟩ := MatcherBuilder.entry_eq_ok hentry
  obtain ⟨slots, R, hcontains⟩ := hm.contains i _ he
  have hsome := Option.some.inj (hcontains.program.symm.trans hprogram)
  rw [hdecided, Option.ite_none_right_eq_some] at hsome
  obtain rfl := Option.some.inj hsome.2
  constructor
  · rw [hlayout, Pattern.program]
  · intro input start st hst hid layout
    have hmatch := hm.isMatch_of_accepted he (MatcherBuilder.valid_entry hentry) hst hid
    obtain ⟨c, hc⟩ := Option.isSome_iff_exists.1
      ((Program.isSome_captures? _ _ start _).2 (hc.mem_lax hmatch))
    rw [capturedAt_of_captures? hprogram hc, hc]

end Matcher

namespace Pattern

variable {σ : Alphabet} {p : Pattern} {a : Automaton}

/-- The program of a pattern replays whatever the automaton of the pattern accepts, and without
exclusive loops nothing else. A matcher that has the program never falls back on marks. -/
theorem program_replays (h : p.compile σ = .ok a) :
    (∀ start w, a.isMatch w = true → (p.program.captures? start w).isSome = true) ∧
    (p.Standard → ∀ start w, σ.Admits w →
      ((p.program.captures? start w).isSome = true ↔ a.isMatch w = true)) ∧
    ∀ {α : Type} {b b' : MatcherBuilder α} {ps : List (Pattern × Constructor α)} {m : Matcher α}
      {i : Nat} {construct : Constructor α}, b.entries = [] → b.withPatterns σ ps = .ok b' →
        b'.build = .ok m → ps[i]? = some (p, construct) → ∀ program,
          m.programs[i]? = some (some program) → program = p.program ∧ m.Replays i program := by
  refine ⟨fun start w => isSome_captures?_of_isMatch h start,
    fun hp start w => isSome_captures?_iff_isMatch h hp start, ?_⟩
  intro α b b' ps m i construct hb hps hbuild hi program hprogram
  obtain ⟨es, hes, hv, rfl⟩ := MatcherBuilder.entries_of_withPatterns hps
  rw [hb, List.nil_append] at hbuild
  exact (Matcher.unites_build hv hbuild).replays hes hi hprogram

/-- A loop around a group of a loop: its program has a way back to itself without a symbol. -/
def groupedRounds : Pattern := .loop (.group [0] (.loop (.symbols [⟨97, 98⟩]) 0 .plain)) 0 .plain

theorem program_replays_groupedRounds : ∃ a m, groupedRounds.compile .bytes = .ok a ∧
    (MatcherBuilder.new : MatcherBuilder Captured).buildAll .bytes [groupedRounds] = .ok m ∧
      (groupedRounds.program.captures? 3 [97, 97]).isSome = true ∧
        (groupedRounds.program.captures? 3 [98]).isSome = false ∧ m.Replays 0 groupedRounds.program := by
  have ho : groupedRounds.overlap? .bytes = none := by decide +kernel
  have hl : groupedRounds.labels.Nodup := by decide
  have hambiguous : (groupedRounds.automaton .bytes ⟨groupedRounds.labels, 0⟩).ambiguous = true := by
    decide +kernel
  have hmatch : (groupedRounds.automaton .bytes ⟨groupedRounds.labels, 0⟩).isMatch [97, 97] = true := by
    decide +kernel
  have hreject : (groupedRounds.automaton .bytes ⟨groupedRounds.labels, 0⟩).isMatch [98] = false := by
    decide +kernel
  obtain ⟨hreplay, hexact, hmatcher⟩ := program_replays (compile_of_nodup ho hl)
  have hstandard : groupedRounds.Standard := by simp [groupedRounds, Standard]
  have hentry : MatcherBuilder.entry .bytes groupedRounds (fun _ captured => captured) = .ok
      (⟨groupedRounds.automaton .bytes ⟨groupedRounds.labels, 0⟩, ⟨groupedRounds.labels, 0⟩,
        some groupedRounds.program, fun _ captured => captured⟩ : Entry Captured) := by
    rw [MatcherBuilder.entry, checkedLayout_of_nodup ho hl]
    simp only [bind, Except.bind, hambiguous]
    rfl
  have hvalid := MatcherBuilder.valid_entry hentry
  refine ⟨_, _, compile_of_nodup ho hl, MatcherBuilder.buildAll_single hentry, hreplay 3 _ hmatch, ?_, ?_⟩
  · have hadmits : Alphabet.bytes.Admits [98] := by
      intro x hx
      rw [List.mem_singleton.1 hx]
      decide
    rw [Bool.eq_false_iff, ne_eq, hexact hstandard 3 [98] hadmits, hreject]
    exact Bool.false_ne_true
  · have hadd := MatcherBuilder.withPatterns_single (p := (groupedRounds, fun _ captured => captured)) hentry .new
    exact (hmatcher rfl hadd (MatcherBuilder.build_single hvalid rfl) rfl _ rfl).2

end Pattern

end Polymatch
