import Polymatch.Proofs.Matcher.Overlap
import Polymatch.Proofs.Matcher.Replays
import Polymatch.Proofs.Pattern.Visits

/-! # Exact marks

A matcher takes the groups of a match from the marks of the run if the automaton is
not ambiguous, and from a replay otherwise. Where both could be taken they find the same
occurrences, but the marks between two symbols tell nothing of an empty occurrence that
is followed by another one at the same offset. The replay finds all of them.
-/

namespace Polymatch

/-- The groups without the occurrences that start where a later one of the same group starts. -/
def Captured.distinct (c : Captured) : Captured := ⟨c.span, c.groups.map Span.distinct⟩

theorem Captured.distinct_eq_self {c : Captured} :
    c.distinct = c ↔ ∀ occurrences ∈ c.groups, occurrences.Pairwise (·.start ≠ ·.start) := by
  have hgroups : c.groups.map Span.distinct = c.groups ↔ ∀ l ∈ c.groups, Span.distinct l = l := by
    simpa using List.map_inj_left (f := Span.distinct) (g := id)
  obtain ⟨span, groups⟩ := c
  rw [distinct, Captured.mk.injEq, eq_self_iff_true, true_and, hgroups]
  exact forall₂_congr fun l _ => Span.distinct_eq_self

namespace Event

open Program (Groups)

theorem length_perform (layout : Layout) (pos : Nat) (groups : Groups) (es : List Event) :
    (perform layout pos groups es).length = groups.length := by
  induction es generalizing pos groups with
  | nil => rfl
  | cons event es ih =>
    cases event with
    | opening label => exact (ih ..).trans (List.length_modify ..)
    | closing label nullable => exact (ih ..).trans (List.length_modify ..)
    | read x owed => exact ih ..

end Event

namespace Pattern

open Event

variable {σ : Alphabet} {p : Pattern} {a : Automaton} {layout : Layout} {es : List Event} {pos start : Nat}
  {input w : List Nat}

/-- What the marks of a walk select is what its replay captures, but for hidden occurrences. -/
theorem Walk.select_spellAll (h : Walk layout p ∅ es) (hp : p.Ascending) (hl : p.labels.Nodup)
    (hlayout : layout.labels.Nodup) (hmax : pos + (word es).length ≤ maxOffset) :
    (Recording.record ∅ pos (spellAll layout es ([], ∅)).1).select layout (spellAll layout es ([], ∅)).2
        ⟨pos, pos + (word es).length⟩ =
      Captured.distinct ⟨⟨pos, pos + (word es).length⟩,
        (perform layout pos (List.replicate layout.size []) es).map List.reverse⟩ := by
  have hlength : (spellAll layout es ([], ∅)).1.length = (word es).length := by
    rw [← List.length_map Prod.fst, map_spellAll, List.map_nil, List.append_nil]
  rw [Recording.select, Captured.distinct, Captured.mk.injEq, Layout.slots, List.map_map, List.map_map]
  refine ⟨rfl, List.ext_getElem? fun i => ?_⟩
  rw [List.getElem?_map, List.getElem?_map]
  cases hi : layout.labels[i]? with
  | none =>
    have hnone : (perform layout pos (List.replicate layout.size []) es)[i]? = none := by
      rw [List.getElem?_eq_none_iff] at hi ⊢
      rwa [length_perform, List.length_replicate]
    rw [hnone]
    rfl
  | some label =>
    have hspans := spans_walk h hp hl (List.mem_of_getElem? hi) pos
    rw [getElem?_perform_replicate hlayout hi]
    simp only [Option.map_some, Function.comp]
    rw [Recording.selectSlot_record_empty (by rw [hlength]) hmax, hspans, Span.latest, List.reverse_reverse]

theorem Walk.select_eq (h : Walk layout p ∅ es) (hp : p.Standard) (hl : p.labels.Nodup)
    (hlayout : layout.labels.Nodup) (hmax : pos + (word es).length ≤ maxOffset) :
    (Recording.record ∅ pos (spellAll layout es ([], ∅)).1).select layout (spellAll layout es ([], ∅)).2
        ⟨pos, pos + (word es).length⟩ =
      Captured.distinct ⟨⟨pos, pos + (word es).length⟩,
        (perform layout pos (List.replicate layout.size []) es).map List.reverse⟩ :=
  h.select_spellAll (ascending_of_standard p hp) hl hlayout hmax

/-- Where the marks of a compiled pattern are not ambiguous, a match selects the groups that the program
of the pattern captures, without occurrences that start where a later one starts. Marks and
program agree exactly if there are none. -/
theorem select_eq_distinct (h : p.compile σ = .ok a) (hp : p.Standard) (hl : p.labels.Nodup)
    (ha : a.ambiguous = false) {st : Automaton.Stop} (hst : st ∈ a.stops input start) (hacc : 0 ∈ st.accepted)
    (hmax : st.stop ≤ maxOffset) : ∃ c,
      p.program.captures? start ((input.drop start).take (st.stop - start)) = some c ∧
        st.recording.select ⟨p.labels, 0⟩ st.exit ⟨start, st.stop⟩ = c.distinct ∧
          (st.recording.select ⟨p.labels, 0⟩ st.exit ⟨start, st.stop⟩ = c ↔
            ∀ occurrences ∈ c.groups, occurrences.Pairwise (·.start ≠ ·.start)) := by
  have hc := compiled_of_compile h
  have hat : Automaton.StopsAt (a.stops input start) 0 fun stop exit r =>
      stop = st.stop ∧ exit = st.exit ∧ r = st.recording := ⟨st, hst, hacc, rfl, rfl, rfl⟩
  obtain ⟨-, n, hn, t, exit, ht, hstop, hexit, hrecording⟩ := Automaton.stopsAt_stops.1 hat
  rw [← hstop] at hmax
  rw [← hstop, ← hexit, ← hrecording, Nat.add_sub_cancel_left]
  generalize hw : (input.drop start).take n = w at ht
  have hlength : w.length = n := by
    rw [← hw, List.length_take]
    exact Nat.min_eq_left hn
  subst hlength
  have hmatch : a.isMatch w = true :=
    Automaton.isMatch_of_halts (by rw [hc.patterns]; exact Nat.zero_lt_one) ht
  obtain ⟨c, hcaptures⟩ := Option.isSome_iff_exists.1 (isSome_captures?_of_isMatch h start hmatch)
  obtain ⟨es, hwalk, rfl, rfl⟩ := Program.exists_walk_captures? hp (fun _ => id) hcaptures
  -- the walk of the replay is spelled, and there is a single way to mark the input
  have hspells : (p.meaning σ ⟨p.labels, 0⟩).spells (spellAll ⟨p.labels, 0⟩ es ([], ∅)).1
      (spellAll ⟨p.labels, 0⟩ es ([], ∅)).2 :=
    hwalk.tells hp (hc.admits hmatch) .done .done ([], ∅) (fun _ => ⟨rfl, rfl⟩) fun _ => ⟨rfl, rfl⟩
  obtain ⟨s, htrace, hend⟩ := hc.trace ha _ _ hspells
  obtain ⟨s', ht, -, rfl⟩ := ht
  rw [map_spellAll, List.map_nil, List.append_nil] at htrace
  obtain ⟨rfl, rfl⟩ := Prod.mk.inj (Option.some.inj (ht.symm.trans htrace))
  have hselect := hwalk.select_eq hp hl hl hmax
  rw [← hend] at hselect
  refine ⟨_, hcaptures, hselect, ?_⟩
  rw [hselect]
  exact Captured.distinct_eq_self

/-- Two empty rounds of a group in front of a letter: the marks tell of one of them. -/
def emptyRounds : Pattern :=
  .sequence [.counted (.group [0] (.sequence [])) [2], .symbols [⟨97, 98⟩]]

theorem select_eq_distinct_emptyRounds : ∃ a st, emptyRounds.compile .bytes = .ok a ∧ emptyRounds.Standard ∧
    emptyRounds.labels.Nodup ∧ a.ambiguous = false ∧ st ∈ a.stops [97] 0 ∧ 0 ∈ st.accepted ∧ st.stop ≤ maxOffset ∧
      emptyRounds.program.captures? 0 [97] = some ⟨⟨0, 1⟩, [[⟨0, 0⟩, ⟨0, 0⟩]]⟩ ∧
        st.recording.select ⟨emptyRounds.labels, 0⟩ st.exit ⟨0, st.stop⟩ = ⟨⟨0, 1⟩, [[⟨0, 0⟩]]⟩ := by
  have ho : emptyRounds.overlap? .bytes = none := by decide +kernel
  have hl : emptyRounds.labels.Nodup := by decide
  have hp : emptyRounds.Standard := by simp [emptyRounds, Standard, AllStandard]
  have h : emptyRounds.compile .bytes = .ok (emptyRounds.automaton .bytes ⟨emptyRounds.labels, 0⟩) :=
    compile_of_nodup ho hl
  have ha : (emptyRounds.automaton .bytes ⟨emptyRounds.labels, 0⟩).ambiguous = false := by decide +kernel
  have hstop : ((emptyRounds.automaton .bytes ⟨emptyRounds.labels, 0⟩).stops [97] 0).map
      (fun st => (st.stop, st.accepted.contains 0)) = [(1, true)] := by decide +kernel
  have hcaptures : emptyRounds.program.captures? 0 [97] = some ⟨⟨0, 1⟩, [[⟨0, 0⟩, ⟨0, 0⟩]]⟩ := by decide +kernel
  obtain ⟨st, hstops, hst⟩ := List.map_eq_singleton_iff.1 hstop
  obtain ⟨hone, haccepted⟩ := Prod.mk.inj hst
  have hmem : st ∈ (emptyRounds.automaton .bytes ⟨emptyRounds.labels, 0⟩).stops [97] 0 := by
    rw [hstops]
    exact List.mem_singleton_self st
  have hacc : 0 ∈ st.accepted := SortedSet.contains_iff.1 haccepted
  have hmax : st.stop ≤ maxOffset := by
    rw [hone]
    decide
  obtain ⟨c, hc, hselect, -⟩ := select_eq_distinct h hp hl ha hmem hacc hmax
  refine ⟨_, st, h, hp, hl, ha, hmem, hacc, hmax, hcaptures, ?_⟩
  rw [hone] at hc
  obtain rfl := Option.some.inj (hcaptures.symm.trans hc)
  rw [hselect]
  decide

end Pattern

end Polymatch
