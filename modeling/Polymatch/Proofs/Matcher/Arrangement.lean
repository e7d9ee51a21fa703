import Polymatch.Proofs.Matcher.Steering
import Polymatch.Proofs.Pattern.Nesting
import Polymatch.Proofs.Pattern.Recognition
import Polymatch.Proofs.Pattern.Retelling

/-! # Arranged groups

The groups of a match come from the marks of the run or from a replay. Both tell of a
walk through the pattern, so in every match that a matcher reports, in whatever way, the
groups lie in order and inside of each other as the pattern has them. For that, counts
have to ascend: a pattern whose counts do not is taken to match less than it does, and
its group is left open.
-/

namespace Polymatch

namespace Matcher

variable {α τ : Type} {m : Matcher α} {input : List Nat} {start fuel : Nat} {visit : τ → Found α → τ × Action}
  {founds : List (Found α)} {plan : Plan} {t : τ} {holds : τ → Prop} {f : Found α}

section Invariants

theorem report_induction (h : holds t) (hstep : ∀ t, holds t → ∀ f ∈ founds, holds (visit t f).1) (plan : Plan) :
    holds (report visit start founds t plan).1 := by
  induction founds generalizing t plan with
  | nil => exact h
  | cons f founds ih =>
    have hnext := hstep t h f List.mem_cons_self
    have hrest := fun plan => ih hnext (fun t ht f hf => hstep t ht f (List.mem_cons_of_mem _ hf)) plan
    rw [report]
    generalize visit t f = answer at hnext hrest
    obtain ⟨t', action⟩ := answer
    cases action with
    | continueAll => exact hrest plan
    | terminateAfterStart | skipMatchedAfterStart | skipAfterStart => exact hrest _
    | terminate | skipMatchedNow | skipNow => exact hnext

theorem scanWithin_induction (h : holds t) (hstep : ∀ t, holds t → ∀ f ∈ m.reports input, holds (visit t f).1) :
    holds (m.scanWithin input visit fuel start t) := by
  induction fuel generalizing start t with
  | zero => exact h
  | succ fuel ih =>
    rw [scanWithin]
    split
    · exact h
    · rename_i hs
      have hmem : ∀ f ∈ m.reportsFrom input start, f ∈ m.reports input := by
        intro f hf
        have hstart := start_of_mem_reportsFrom hf
        exact mem_reports.2 ⟨hstart ▸ Nat.le_of_not_lt hs, hstart ▸ hf⟩
      have hreport : holds (report visit start (m.reportsFrom input start) t ⟨none, false⟩).1 :=
        report_induction h (fun t ht f hf => hstep t ht f (hmem f hf)) _
      rw [reportStops_eq_report, ← reportsFrom]
      generalize report visit start (m.reportsFrom input start) t ⟨none, false⟩ = r at hreport
      obtain ⟨t', outcome⟩ := r
      dsimp only
      split
      · exact hreport
      · exact ih hreport

/-- What all reports keep holds at the end of a scan, whatever the receiver answers. -/
theorem scan_induction (h : holds t) (hstep : ∀ t, holds t → ∀ f ∈ m.reports input, holds (visit t f).1) :
    holds (m.scan input visit t) := scanWithin_induction h hstep

/-- What all groups keep holds at the end of leftmost-longest scanning. -/
theorem findLongestWith_induction {visit : τ → List (Found α) → τ × Bool} (h : holds t)
    (hstep : ∀ t, holds t → ∀ group ⊆ m.reports input, holds (visit t group).1) :
    holds (m.findLongestWith input visit t) := by
  have hheld : ∀ h : Holding α τ, holds h.visited ∧ h.group ⊆ m.reports input → ∀ f ∈ m.reports input,
      holds (hold visit h f).1.visited ∧ (hold visit h f).1.group ⊆ m.reports input := by
    rintro ⟨s, group, stopped⟩ ⟨hs, hgroup⟩ f hf
    have hsingle : [f] ⊆ m.reports input := List.cons_subset.2 ⟨hf, List.nil_subset _⟩
    cases group with
    | nil => exact ⟨hs, hsingle⟩
    | cons first others =>
      have hvisit := hstep s hs (first :: others) hgroup
      rw [hold]
      dsimp only
      split
      · split
        · exact ⟨hvisit, hsingle⟩
        · exact ⟨hvisit, List.nil_subset _⟩
      · split
        · exact ⟨hs, hsingle⟩
        · exact ⟨hs, List.append_subset.2 ⟨hgroup, hsingle⟩⟩
  obtain ⟨hs, hgroup⟩ := @scan_induction α (Holding α τ) m input (hold visit) ⟨t, [], false⟩
    (fun h => holds h.visited ∧ h.group ⊆ m.reports input) ⟨h, List.nil_subset _⟩ hheld
  rw [findLongestWith, release]
  split
  · exact hs
  · exact hstep _ hs _ hgroup

end Invariants

section Reported

/-- Note down the groups that are passed on. -/
def noted (visit : τ → List (Found α) → τ × Bool) (s : τ × List (List (Found α))) (group : List (Found α)) :
    (τ × List (List (Found α))) × Bool :=
  (((visit s.1 group).1, s.2 ++ [group]), (visit s.1 group).2)

/-- The matches that a matcher reports: for the whole input, to receivers of scans, and in groups to receivers
of leftmost-longest scans. -/
inductive Reported (m : Matcher α) (input : List Nat) (f : Found α) : Prop
  | exact : f ∈ m.exactAll input → Reported m input f
  | firstExact : f ∈ m.firstExact? input → Reported m input f
  | scan {τ : Type} {visit : τ → Found α → τ × Action} {t : τ} {action : Action} :
      (f, action) ∈ (m.scan input (logged visit) (t, [])).2 → Reported m input f
  | findFirst : f ∈ m.findFirst? input → Reported m input f
  | findLongestWith {τ : Type} {visit : τ → List (Found α) → τ × Bool} {t : τ} {group : List (Found α)} :
      group ∈ (m.findLongestWith input (noted visit) (t, [])).2 → f ∈ group → Reported m input f
  | findLongest : f ∈ m.findLongest input → Reported m input f

theorem mem_reports_of_mem_exactAll (h : f ∈ m.exactAll input) : f ∈ m.reports input := by
  obtain ⟨hf, -⟩ := mem_exactAll.1 h
  have hstart := start_of_mem_reportsFrom hf
  exact mem_reports.2 ⟨hstart ▸ Nat.zero_le _, hstart.symm ▸ hf⟩

/-- All that is reported occurs in the scan that nothing interrupts. -/
theorem Reported.mem_reports (h : m.Reported input f) : f ∈ m.reports input := by
  cases h with
  | exact h => exact mem_reports_of_mem_exactAll h
  | firstExact h => exact mem_reports_of_mem_exactAll (List.mem_of_mem_head? h)
  | @scan τ visit t action h =>
    refine @scan_induction α _ m input (logged visit) (t, []) (fun s => ∀ e ∈ s.2, e.1 ∈ m.reports input)
      (List.forall_mem_nil _) (fun s hs f hf => ?_) _ h
    exact List.forall_mem_append.2 ⟨hs, List.forall_mem_singleton.2 hf⟩
  | findFirst h =>
    exact @scan_induction α _ m input (fun _ found => (some found, .terminate)) none
      (fun s => ∀ f ∈ s, f ∈ m.reports input) nofun (fun _ _ f hf _ hg => Option.some.inj hg ▸ hf) f h
  | @findLongestWith τ visit t group h hf =>
    have hgroups : ∀ group ∈ (m.findLongestWith input (noted visit) (t, [])).2, group ⊆ m.reports input := by
      refine @findLongestWith_induction α _ m input (t, []) (fun s => ∀ group ∈ s.2, group ⊆ m.reports input)
        (noted visit) (List.forall_mem_nil _) fun s hs group hgroup => ?_
      exact List.forall_mem_append.2 ⟨hs, List.forall_mem_singleton.2 hgroup⟩
    exact hgroups group h hf
  | findLongest h =>
    have hfound : m.findLongest input ⊆ m.reports input :=
      @findLongestWith_induction α _ m input [] (· ⊆ m.reports input) (fun found group => (found ++ group, true))
        (List.nil_subset _) fun s hs group hgroup => List.append_subset.2 ⟨hs, hgroup⟩
    exact hfound h

end Reported

end Matcher

namespace Pattern

variable {σ : Alphabet} {p : Pattern} {start : Nat} {w : List Nat}

/-- The replay of a pattern takes a walk, and captures groups that are arranged. -/
theorem arranged_of_captures? {c : Captured} (hp : p.Ascending) (hl : p.labels.Nodup)
    (h : p.program.captures? start w = some c) : c.Arranged p ∧ c.span = ⟨start, start + w.length⟩ := by
  obtain ⟨es, hwalk, rfl, rfl⟩ := Program.exists_walk_of_captures? hp (fun _ => id) h
  exact ⟨Captured.arranged_of_walk hwalk hp hl start, rfl⟩

/-- Without groups there is nothing to arrange. -/
theorem arranged_select_of_nil (h : p.labels = []) (r : Recording) (exit : Marks) (span : Span) :
    (r.select ⟨p.labels, 0⟩ exit span).Arranged p := by
  refine ⟨?_, ?_, fun _ hi => ?_⟩
  · simp [Recording.select, Layout.slots, h]
  · simp [Recording.select, Layout.slots, h]
  · simp [h] at hi

/-- The marks of a run that is not ambiguous are those of a walk, and select groups that are arranged. -/
theorem arranged_select {a : Automaton} {t : Trace} {exit : Marks} (hc : Compiled σ ⟨p.labels, 0⟩ p a)
    (ha : a.ambiguous = false) (hp : p.Ascending) (hl : p.labels.Nodup) (ht : a.Halts 0 a.start w t exit)
    (hmax : start + w.length ≤ maxOffset) :
    ((Recording.record ∅ start t).select ⟨p.labels, 0⟩ exit ⟨start, start + w.length⟩).Arranged p := by
  obtain ⟨t', exit', rfl, hspells, hexact⟩ := hc.exists_spells ht
  obtain ⟨rfl, rfl⟩ := hexact ha
  obtain ⟨es, hwalk, hspell⟩ := exists_walk_of_spells hp (fun _ => id) hspells
  have hword : t'.map Prod.fst = Event.word es := by
    have hmap := Event.map_spellAll ⟨p.labels, 0⟩ es ([], ∅)
    rwa [hspell, List.map_nil, List.append_nil] at hmap
  rw [hword] at hmax ⊢
  have hselect := hwalk.select_spellAll hp hl hl hmax
  rw [hspell] at hselect
  rw [hselect]
  exact (Captured.arranged_of_walk hwalk hp hl start).distinct

end Pattern

namespace MatcherBuilder

variable {α : Type} {σ : Alphabet} {p : Pattern} {construct : Constructor α} {e : Entry α} {input w : List Nat}
  {start : Nat} {t : List (Nat × Marks)} {exit : Marks}

/-- Where the run of an entry accepts, the entry captures groups that are arranged. -/
theorem arranged_capturedAt (h : entry σ p construct = .ok e) (hp : p.Ascending)
    (hw : w = (input.drop start).take w.length) (ht : e.automaton.Halts 0 e.automaton.start w t exit)
    (hmax : start + w.length ≤ maxOffset) :
    (e.alone.capturedAt input start ⟨start + w.length, ∅, exit, .record ∅ start t⟩ 0 e.layout).Arranged p ∧
      (e.alone.capturedAt input start ⟨start + w.length, ∅, exit, .record ∅ start t⟩ 0 e.layout).span =
        ⟨start, start + w.length⟩ := by
  have hl := nodup_of_entry h
  obtain ⟨-, hlayout, -, hc, -, hprogram⟩ := entry_eq_ok h
  have hmatch : e.automaton.isMatch w = true :=
    Automaton.isMatch_of_halts (by rw [hc.patterns]; exact Nat.zero_lt_one) ht
  have hprograms : e.alone.programs[0]? = some e.program? := rfl
  rw [hlayout] at hc hprogram ⊢
  rw [Matcher.capturedAt, hprograms, Option.getD_some, hprogram]
  simp only [Nat.add_sub_cancel_left, ← hw]
  cases hdecided : e.automaton.ambiguous && !Layout.isEmpty ⟨p.labels, 0⟩ with
  | true =>
    obtain ⟨c, hcaptures⟩ := Option.isSome_iff_exists.1
      ((Program.isSome_captures? p ⟨p.labels, 0⟩ start w).2 (hc.mem_lax hmatch))
    rw [if_pos rfl, Option.bind_some, hcaptures, Option.getD_some]
    exact Pattern.arranged_of_captures? hp hl hcaptures
  | false =>
    rw [if_neg Bool.false_ne_true, Option.bind_none, Option.getD_none]
    refine ⟨?_, rfl⟩
    cases ha : e.automaton.ambiguous with
    | false => exact Pattern.arranged_select hc ha hp hl ht hmax
    | true =>
      rw [ha, Bool.true_and, Bool.not_eq_false', Layout.isEmpty, List.isEmpty_iff] at hdecided
      exact Pattern.arranged_select_of_nil hdecided _ _ _

end MatcherBuilder

/-- The value of a match is made of groups in the span of the match that are arranged as in its pattern. -/
def Found.Arranged {α : Type} (f : Found α) (ps : List (Pattern × Constructor α)) (input : List Nat) : Prop :=
  ∃ p construct c, ps[f.pattern]? = some (p, construct) ∧ f.value = construct input c ∧ c.span = f.span ∧ c.Arranged p

namespace Matcher

variable {α : Type} {σ : Alphabet} {m : Matcher α} {b b' : MatcherBuilder α} {ps : List (Pattern × Constructor α)}
  {input : List Nat} {f : Found α}

theorem arranged_alone {p : Pattern} {construct : Constructor α} {e : Entry α}
    (h : MatcherBuilder.entry σ p construct = .ok e) (hp : p.Ascending) {start : Nat} (hs : start ≤ input.length)
    (hmax : input.length ≤ maxOffset) {f : Found α} (hf : f ∈ e.alone.reportsFrom input start) :
    ∃ c, f.value = construct input c ∧ c.span = f.span ∧ c.Arranged p := by
  have hpattern := pattern_of_mem_alone (MatcherBuilder.valid_entry h) hf
  obtain ⟨-, n, hn, t, exit, ht, hyields⟩ := mem_reportsFrom.1 hf
  have hlayout : e.alone.layouts[0]? = some e.layout := rfl
  have hconstruct : e.alone.constructors[0]? = some construct :=
    congrArg some (MatcherBuilder.entry_eq_ok h).2.2.2.2.1
  rw [Yields, hpattern, found?_eq hlayout hconstruct] at hyields
  rw [hpattern] at ht
  rw [List.length_drop] at hn
  have hlength : ((input.drop start).take n).length = n := by
    rw [List.length_take, List.length_drop]
    omega
  have harranged := @MatcherBuilder.arranged_capturedAt α σ p construct e input ((input.drop start).take n) start t
    exit h hp (by rw [hlength]) ht (by omega)
  rw [hlength] at harranged
  rw [← Option.some.inj hyields]
  exact ⟨_, rfl, harranged.2, harranged.1⟩

/-- Whatever the policies of loops are, and however a match comes to be reported, the occurrences of a group lie
in the match, one behind the other, and each of them in an occurrence of every group around it. -/
theorem reported_arranged (hb : b.entries = []) (hps : b.withPatterns σ ps = .ok b') (hbuild : b'.build = .ok m)
    (hp : ∀ q ∈ ps, q.1.Ascending) (hmax : input.length ≤ maxOffset) (hf : m.Reported input f) :
    f.Arranged ps input := by
  obtain ⟨es, hes, hvalid, rfl⟩ := MatcherBuilder.entries_of_withPatterns hps
  rw [hb, List.nil_append] at hbuild
  obtain ⟨hs, hmem⟩ := mem_reports.1 hf.mem_reports
  obtain ⟨e, he, halone⟩ := ((unites_build hvalid hbuild).mem_reportsFrom hvalid).1 hmem
  obtain ⟨hlength, hget⟩ := List.forall₂_iff_get.1 hes
  obtain ⟨hlt, rfl⟩ := List.getElem?_eq_some_iff.1 he
  have hentry := hget f.pattern (hlength ▸ hlt) hlt
  simp only [List.get_eq_getElem] at hentry
  have hlt' : f.pattern < ps.length := hlength ▸ hlt
  obtain ⟨c, hvalue, hspan, harranged⟩ := arranged_alone hentry (hp _ (List.getElem_mem hlt')) hs hmax halone
  exact ⟨_, _, c, List.getElem?_eq_getElem hlt', hvalue, hspan, harranged⟩

/-- Pairs of letters in a group, the first letter in a group of its own. The loop keeps them to itself. -/
def keptPairs : Pattern :=
  .loop (.group [0] (.sequence [.group [0, 0] (.symbols [⟨97, 98⟩]), .symbols [⟨98, 99⟩]])) 1 .extending

theorem reported_arranged_keptPairs : ∃ b m f, MatcherBuilder.new.withPatterns .bytes
    [(keptPairs, fun _ captured => captured)] = .ok b ∧ b.build = .ok m ∧ m.Reported [97, 98, 97, 98] f ∧
      f.value = ⟨⟨0, 4⟩, [[⟨0, 2⟩, ⟨2, 4⟩], [⟨0, 1⟩, ⟨2, 3⟩]]⟩ ∧
        f.Arranged [(keptPairs, fun _ captured => captured)] [97, 98, 97, 98] := by
  have hentry := MatcherBuilder.entry_of_nodup (σ := .bytes) (p := keptPairs) (by decide +kernel) (by decide)
    fun _ captured => captured
  have hb := MatcherBuilder.withPatterns_single (p := (keptPairs, fun _ captured => captured)) hentry .new
  have hbuild := MatcherBuilder.build_single (b := ⟨[_], MergeOptions.defaultMaxDepth, false⟩)
    (MatcherBuilder.valid_entry hentry) rfl
  have hascending : ∀ q ∈ [((keptPairs, fun _ captured => captured) : Pattern × Constructor Captured)],
      q.1.Ascending :=
    List.forall_mem_singleton.2 ⟨trivial, trivial, trivial⟩
  refine ⟨_, _, ⟨0, ⟨0, 4⟩, ⟨⟨0, 4⟩, [[⟨0, 2⟩, ⟨2, 4⟩], [⟨0, 1⟩, ⟨2, 3⟩]]⟩⟩, hb, hbuild, .exact ?_, rfl,
    reported_arranged rfl hb hbuild hascending (by decide) (.exact ?_)⟩
  all_goals decide +kernel

/-- A letter behind a group of no letters or two, with the counts in the wrong order. The group is taken not to
match the empty input, though it matches nothing else. -/
def turnedCounts : Pattern :=
  .sequence [.group [0] (.sequence [.group [0, 0] (.counted (.symbols [⟨98, 99⟩]) [2, 0]), .symbols [⟨97, 98⟩]]),
    .symbols [⟨99, 100⟩]]

/-- No symbol closes the inner group before the match ends, but the group around it is closed. -/
theorem not_arranged_turnedCounts : ∃ m f, MatcherBuilder.new.buildAll .bytes [turnedCounts] = .ok m ∧
    m.Reported [97, 99] f ∧ f.value = ⟨⟨0, 2⟩, [[⟨0, 1⟩], [⟨0, 2⟩]]⟩ ∧ ¬ f.value.Arranged turnedCounts := by
  have hbuild := MatcherBuilder.buildAll_of_nodup (σ := .bytes) (p := turnedCounts) (by decide +kernel) (by decide)
  refine ⟨_, ⟨0, ⟨0, 2⟩, ⟨⟨0, 2⟩, [[⟨0, 1⟩], [⟨0, 2⟩]]⟩⟩, hbuild, .exact (by decide +kernel), rfl, fun h => ?_⟩
  have hnest : ([0], [0, 0]) ∈ turnedCounts.nestings := by decide
  obtain ⟨r, hr, -, hle⟩ := @Captured.Arranged.nested _ _ h [0] [0, 0] 0 1 hnest rfl rfl ⟨0, 2⟩ List.mem_cons_self
  obtain rfl := List.mem_singleton.1 hr
  exact absurd hle (by decide)

end Matcher

end Polymatch
