import Polymatch.Proofs.Matcher.Replays
import Polymatch.Proofs.Merge.Overlap
import Polymatch.Proofs.Pattern.Admission

/-! # Matchers without overlaps

Compiled patterns are tight, and merging keeps them so. A builder that forbids
overlaps therefore fails exactly if some input is matched by two of its patterns,
unless a merge lies too deep. The matchers that it builds find at most one pattern
for every input.
-/

namespace Polymatch

namespace Arena

variable {h : Arena} {a : Automaton} {R : Nat → Nat → Prop} {s s' i start : Nat} {w : List Nat}

/-- The single pattern of a frozen automaton survives every edge. -/
theorem Realizes.walk?_of_reach? (hr : Realizes h a R) (hs : R s i) (hw : a.reach? s w = some s') :
    a.walk? 0 s w = some s' := by
  induction w generalizing s i with
  | nil => exact hw
  | cons x w ih =>
    rw [Automaton.reach?_cons] at hw
    obtain ⟨k, hk, hw⟩ := Option.bind_eq_some_iff.1 hw
    obtain ⟨-, t, ht, -⟩ := hr.link hs hk
    rw [Automaton.walk?, hr.follow? hs, hk]
    exact ih ht hw

theorem Frozen.tight (hf : Frozen h start a R) : a.Tight := by
  intro w s hw i hi
  have hlt := hf.wellFormed.accept_lt_of_mem hi
  obtain rfl : i = 0 := by
    rw [hf.patterns] at hlt
    omega
  obtain ⟨t, ht, -⟩ := hf.start
  exact Automaton.mem_accepts.2 ⟨hlt, s, hf.realizes.walk?_of_reach? ht hw, hi⟩

end Arena

namespace Pattern

variable {σ : Alphabet} {p : Pattern} {a : Automaton} {layout : Layout} {w : List Nat}

theorem tight_automaton (ho : p.overlap? σ = none) (layout : Layout) : (p.automaton σ layout).Tight := by
  obtain ⟨h, start, R, hfrozen, -, -⟩ := exists_frozen ho layout
  exact hfrozen.tight

/-- A compiled pattern accepts inputs over the alphabet only. -/
theorem Compiled.admits (hc : Compiled σ layout p a) (hw : a.isMatch w = true) : σ.Admits w :=
  admitting_behave layout p ∅ (Behaviour.admitted_done σ) (Behaviour.admitted_done σ) w
    ((hc.isMatch_iff w).1 hw)

end Pattern

namespace Entry

variable {α : Type}

/-- Some input is accepted by the automata of both entries. -/
def Overlaps (e e' : Entry α) : Prop :=
  ∃ w, e.automaton.isMatch w = true ∧ e'.automaton.isMatch w = true

theorem Valid.isMatch_iff {e : Entry α} (h : e.Valid) {w : List Nat} :
    e.automaton.isMatch w = true ↔ 0 ∈ e.automaton.accepts w := by
  rw [Automaton.isMatch, Bool.not_eq_true', SortedSet.isEmpty_eq_false]
  constructor
  · rintro ⟨i, hi⟩
    have hlt := Automaton.lt_of_mem_accepts hi
    rw [h.patterns] at hlt
    rwa [Nat.lt_one_iff.1 hlt] at hi
  · exact fun h0 => ⟨0, h0⟩

end Entry

namespace Matcher

variable {α : Type} {m m' : Matcher α} {b : MatcherBuilder α} {es rest : List (Entry α)} {e : Entry α}
  {w : List Nat} {i : Nat} {err : BuildError}

/-- A matcher accepts an input for the entries whose own automata accept it. -/
theorem Unites.mem_accepts (hm : m.Unites es) (hv : ∀ e ∈ es, e.Valid) :
    i ∈ m.automaton.accepts w ↔ ∃ e, es[i]? = some e ∧ e.automaton.isMatch w = true := by
  have hcontained : ∀ {e}, es[i]? = some e → (i ∈ m.automaton.accepts w ↔ e.automaton.isMatch w = true) := by
    intro e he
    have hvalid := hv e (List.mem_of_getElem? he)
    obtain ⟨slots, R, hc⟩ := hm.contains i e he
    rw [hvalid.isMatch_iff, ← hc.embeds.mem_accepts (by rw [hvalid.patterns]; exact Nat.zero_lt_one) w,
      Nat.zero_add]
  constructor
  · intro hi
    have hlt := Automaton.lt_of_mem_accepts hi
    rw [hm.patterns] at hlt
    have he := List.getElem?_eq_getElem hlt
    exact ⟨_, he, (hcontained he).1 hi⟩
  · rintro ⟨e, he, hw⟩
    exact (hcontained he).2 hw

/-- How a builder fails where an overlap is forbidden. -/
def Refuses (err : BuildError) (overlap : Prop) : Prop :=
  (∃ bound, err = .mergeDepthExceeded bound) ∨ (∃ l r, err = .overlappingAccept l r) ∧ overlap

variable (hm : m.Unites es) (hv : ∀ e ∈ es, e.Valid) (ht : m.automaton.Tight)

include hm hv ht

/-- A matcher is extended by an entry unless a merge lies too deep or the entry overlaps another one. -/
theorem Unites.extend_error (he : e.Valid) (hte : e.automaton.Tight) (h : b.extend m e = .error err) :
    Refuses err (∃ e' ∈ es, e'.Overlaps e) := by
  obtain hmerged | ⟨merged, -, hextended⟩ := bind_eq_error.1 h
  · refine (Automaton.mergePattern_error ht hte hmerged).imp id ?_
    rintro ⟨w, i, j, hi, hj, rfl⟩
    obtain ⟨e', he', hw⟩ := (hm.mem_accepts hv).1 hi
    obtain rfl : j = 0 := by
      have hlt := Automaton.lt_of_mem_accepts hj
      rw [he.patterns] at hlt
      omega
    exact ⟨⟨_, _, rfl⟩, e', List.mem_of_getElem? he', w, hw, he.isMatch_iff.2 hj⟩
  · exact nomatch hextended

/-- An extended matcher stays tight, and where overlaps are forbidden there is none. -/
theorem Unites.extend_tight (he : e.Valid) (hte : e.automaton.Tight) (h : b.extend m e = .ok m') :
    m'.automaton.Tight ∧ (b.allowOverlap = false → ∀ e' ∈ es, ¬ e'.Overlaps e) := by
  obtain ⟨merged, hmerged, hextended⟩ := bind_eq_ok.1 h
  obtain rfl := Except.ok.inj hextended
  obtain ⟨pairs, hp⟩ := Automaton.exists_mergedPatterns hm.wellFormed he.wellFormed hmerged
  refine ⟨hp.tight hm.wellFormed (Nat.le_refl _) ht hte, fun hover e' he' => ?_⟩
  rintro ⟨w, hw, hw'⟩
  obtain ⟨i, hi⟩ := List.mem_iff_getElem?.1 he'
  exact hp.not_both hover ((hm.mem_accepts hv).2 ⟨e', hi, hw⟩) (he.isMatch_iff.1 hw')

variable (hrest : ∀ e ∈ rest, e.Valid ∧ e.automaton.Tight)

include hrest

/-- Some entry overlaps one before it where merging entries fails, unless a merge lies too deep. -/
theorem Unites.foldlM_error (h : rest.foldlM b.extend m = .error err) :
    Refuses err (¬ (es ++ rest).Pairwise fun e e' => ¬ e.Overlaps e') := by
  induction rest generalizing m es with
  | nil => exact nomatch h
  | cons e rest ih =>
    obtain ⟨⟨he, hte⟩, hrest⟩ := List.forall_mem_cons.1 hrest
    obtain hextend | ⟨next, hextend, hfold⟩ := bind_eq_error.1 h
    · refine (hm.extend_error hv ht he hte hextend).imp id (And.imp_right ?_)
      rintro ⟨e', he', hoverlaps⟩ hpairwise
      exact (List.pairwise_append.1 hpairwise).2.2 e' he' e List.mem_cons_self hoverlaps
    · rw [List.append_cons]
      have hv' : ∀ e' ∈ es ++ [e], e'.Valid :=
        List.forall_mem_append.2 ⟨hv, List.forall_mem_singleton.2 he⟩
      exact ih (hm.extend he hextend) hv' (hm.extend_tight hv ht he hte hextend).1 hrest hfold

/-- No entry overlaps another one where merging entries succeeds. -/
theorem Unites.foldlM_ok (hover : b.allowOverlap = false)
    (hes : es.Pairwise fun e e' => ¬ e.Overlaps e') (h : rest.foldlM b.extend m = .ok m') :
    (es ++ rest).Pairwise fun e e' => ¬ e.Overlaps e' := by
  induction rest generalizing m es with
  | nil => rwa [List.append_nil]
  | cons e rest ih =>
    obtain ⟨⟨he, hte⟩, hrest⟩ := List.forall_mem_cons.1 hrest
    obtain ⟨next, hextend, hfold⟩ := bind_eq_ok.1 h
    obtain ⟨htight, hapart⟩ := hm.extend_tight hv ht he hte hextend
    have hv' : ∀ e' ∈ es ++ [e], e'.Valid :=
      List.forall_mem_append.2 ⟨hv, List.forall_mem_singleton.2 he⟩
    have hes' : (es ++ [e]).Pairwise fun e e' => ¬ e.Overlaps e' :=
      List.pairwise_append.2 ⟨hes, List.pairwise_singleton .., fun e' he' e'' he'' =>
        List.mem_singleton.1 he'' ▸ hapart hover e' he'⟩
    rw [List.append_cons]
    exact ih (hm.extend he hextend) hv' htight hrest hes' hfold

end Matcher

namespace MatcherBuilder

open Matcher (Refuses)

variable {α : Type} {σ : Alphabet} {b : MatcherBuilder α} {m : Matcher α} {first e : Entry α}
  {rest : List (Entry α)} {err : BuildError}

/-- Building a matcher extends that of the first entry by the others. -/
theorem build_eq (hentries : b.entries = first :: rest) (hv : ∀ e ∈ b.entries, e.Valid) :
    b.build = rest.foldlM b.extend first.alone := by
  rw [hentries, List.forall_mem_cons] at hv
  rw [build, hentries]
  change (rest.foldlM b.extend first.alone >>= _) = _
  cases hfold : rest.foldlM b.extend first.alone with
  | error err => rfl
  | ok last =>
    have hlast := (Matcher.unites_alone hv.1).foldlM_extend hv.2 hfold
    have hcovered : ¬ min last.layouts.length last.constructors.length < last.automaton.patterns := by
      rw [hlast.layouts, hlast.constructors, hlast.patterns, Nat.min_self]
      exact Nat.lt_irrefl _
    simp only [bind, Except.bind, Matcher.new, if_neg hcovered]
    rfl

/-- Every entry of a pattern is tight. -/
theorem tight_entry {p : Pattern} {construct : Constructor α} (h : entry σ p construct = .ok e) :
    e.automaton.Tight := by
  obtain ⟨ho, -, ha, -⟩ := entry_eq_ok h
  rw [ha]
  exact Pattern.tight_automaton ho _

/-- A pattern recognizes what its entry matches. -/
theorem recognizes_iff_of_entry {p : Pattern} {construct : Constructor α}
    (h : entry σ p construct = .ok e) {w : List Nat} : p.Recognizes σ w ↔ e.automaton.isMatch w = true := by
  have hcompile := compile_of_entry h
  constructor
  · rintro ⟨a, ha, hw⟩
    rwa [Except.ok.inj (hcompile.symm.trans ha)]
  · exact fun hw => ⟨_, hcompile, hw⟩

variable (hb : ∀ e ∈ b.entries, e.Valid ∧ e.automaton.Tight)

include hb

/-- Building from some entries fails if a merge lies too deep or if entries overlap. -/
theorem build_error (hne : b.entries ≠ []) (h : b.build = .error err) :
    Refuses err (¬ b.entries.Pairwise fun e e' => ¬ e.Overlaps e') := by
  obtain ⟨first, rest, hentries⟩ := List.exists_cons_of_ne_nil hne
  rw [build_eq hentries fun e he => (hb e he).1] at h
  rw [hentries] at hb ⊢
  obtain ⟨⟨hv, ht⟩, hrest⟩ := List.forall_mem_cons.1 hb
  exact (Matcher.unites_alone hv).foldlM_error (List.forall_mem_singleton.2 hv) ht hrest h

/-- A builder that forbids overlaps builds from entries that do not overlap. -/
theorem build_ok (hover : b.allowOverlap = false) (h : b.build = .ok m) :
    b.entries.Pairwise fun e e' => ¬ e.Overlaps e' := by
  cases hentries : b.entries with
  | nil => exact .nil
  | cons first rest =>
    rw [build_eq hentries fun e he => (hb e he).1] at h
    rw [hentries] at hb
    obtain ⟨⟨hv, ht⟩, hrest⟩ := List.forall_mem_cons.1 hb
    exact (Matcher.unites_alone hv).foldlM_ok (List.forall_mem_singleton.2 hv) ht hrest hover
      (List.pairwise_singleton ..) h

end MatcherBuilder

namespace Matcher

variable {α : Type} {σ : Alphabet} {ps : List (Pattern × Constructor α)} {depth : Nat} {b : MatcherBuilder α}

/-- Two of the patterns recognize an input over the alphabet. -/
def PatternsOverlap (σ : Alphabet) (ps : List Pattern) : Prop :=
  ∃ w, σ.Admits w ∧ ∃ i j : Nat, i < j ∧ (∃ p : Pattern, ps[i]? = some p ∧ p.Recognizes σ w) ∧
    ∃ q : Pattern, ps[j]? = some q ∧ q.Recognizes σ w

/-- Patterns overlap where their entries do. -/
theorem patternsOverlap_iff {es : List (Entry α)}
    (hes : List.Forall₂ (fun p e => MatcherBuilder.entry σ p.1 p.2 = .ok e) ps es) :
    PatternsOverlap σ (ps.map (·.1)) ↔ ¬ es.Pairwise fun e e' => ¬ e.Overlaps e' := by
  obtain ⟨hlength, hget⟩ := List.forall₂_iff_get.1 hes
  have hrecognizes : ∀ {i : Nat} {w}, (∃ p : Pattern, (ps.map (·.1))[i]? = some p ∧ p.Recognizes σ w) ↔
      ∃ h : i < es.length, es[i].automaton.isMatch w = true := by
    intro i w
    simp only [List.getElem?_map, Option.map_eq_some_iff]
    constructor
    · rintro ⟨_, ⟨p, hp, rfl⟩, hw⟩
      obtain ⟨hi, rfl⟩ := List.getElem?_eq_some_iff.1 hp
      exact ⟨hlength ▸ hi, (MatcherBuilder.recognizes_iff_of_entry (hget i hi (hlength ▸ hi))).1 hw⟩
    · rintro ⟨hi, hw⟩
      have hi' : i < ps.length := hlength ▸ hi
      exact ⟨_, ⟨ps[i], List.getElem?_eq_getElem hi', rfl⟩,
        (MatcherBuilder.recognizes_iff_of_entry (hget i hi' hi)).2 hw⟩
  simp only [PatternsOverlap, hrecognizes, List.pairwise_iff_getElem, not_forall, not_not]
  constructor
  · rintro ⟨w, -, i, j, hij, ⟨hi, hw⟩, hj, hw'⟩
    exact ⟨i, j, hi, hj, hij, w, hw, hw'⟩
  · rintro ⟨i, j, hi, hj, hij, w, hw, hw'⟩
    obtain ⟨-, -, -, hc, -⟩ := MatcherBuilder.entry_eq_ok (hget i (hlength ▸ hi) hi)
    exact ⟨w, hc.admits hw, i, j, hij, ⟨hi, hw⟩, hj, hw'⟩

/-- A builder that forbids overlaps fails on account of one exactly if two of its patterns recognize
one input, unless a merge lies too deep. The matchers that it builds accept every input for one
pattern at most. -/
theorem build_overlap_iff
    (hps : (⟨[], depth, false⟩ : MatcherBuilder α).withPatterns σ ps = .ok b) :
    ((∀ bound, b.build ≠ .error (.mergeDepthExceeded bound)) →
      ((∃ l r, b.build = .error (.overlappingAccept l r)) ↔ PatternsOverlap σ (ps.map (·.1)))) ∧
    ∀ m, b.build = .ok m → ∀ w, (m.automaton.accepts w).toList.length ≤ 1 := by
  obtain ⟨es, hes, hv, rfl⟩ := MatcherBuilder.entries_of_withPatterns hps
  simp only [List.nil_append]
  have htight : ∀ e ∈ es, e.Valid ∧ e.automaton.Tight := by
    intro e he
    obtain ⟨i, hi, rfl⟩ := List.mem_iff_getElem.1 he
    obtain ⟨hlength, hget⟩ := List.forall₂_iff_get.1 hes
    exact ⟨hv _ he, MatcherBuilder.tight_entry (hget i (hlength ▸ hi) hi)⟩
  rw [patternsOverlap_iff hes]
  constructor
  · intro hdepth
    constructor
    · rintro ⟨l, r, herr⟩
      have hne : es ≠ [] := by
        rintro rfl
        exact nomatch herr
      exact ((MatcherBuilder.build_error htight hne herr).resolve_left fun ⟨_, h⟩ => nomatch h).2
    · intro hoverlap
      have hne : es ≠ [] := fun hnil => hoverlap (hnil ▸ .nil)
      cases hbuild : MatcherBuilder.build ⟨es, depth, false⟩ with
      | ok m => exact absurd (MatcherBuilder.build_ok htight rfl hbuild) hoverlap
      | error err =>
        rcases MatcherBuilder.build_error htight hne hbuild with ⟨bound, rfl⟩ | ⟨⟨l, r, rfl⟩, -⟩
        · exact absurd hbuild (hdepth bound)
        · exact ⟨l, r, rfl⟩
  · intro m hbuild w
    have hm := unites_build hv hbuild
    have hapart := List.pairwise_iff_getElem.1 (MatcherBuilder.build_ok htight rfl hbuild)
    -- two ids would belong to two entries that accept the input
    by_contra hmany
    have h0 := List.getElem_mem (l := (m.automaton.accepts w).toList) (n := 0) (by omega)
    have h1 := List.getElem_mem (l := (m.automaton.accepts w).toList) (n := 1) (by omega)
    have hlt := List.pairwise_iff_getElem.1 (m.automaton.accepts w).ascending 0 1 (by omega) (by omega)
      Nat.zero_lt_one
    obtain ⟨e, he, hw⟩ := (hm.mem_accepts hv).1 h0
    obtain ⟨e', he', hw'⟩ := (hm.mem_accepts hv).1 h1
    obtain ⟨hi, rfl⟩ := List.getElem?_eq_some_iff.1 he
    obtain ⟨hj, rfl⟩ := List.getElem?_eq_some_iff.1 he'
    exact hapart _ _ hi hj hlt ⟨w, hw, hw'⟩

/-- The error of building a matcher of some patterns that may not overlap. -/
def refusal? (σ : Alphabet) (ps : List Pattern) : Option BuildError :=
  match (⟨[], 10, false⟩ : MatcherBuilder Captured).withPatterns σ
      (ps.map fun p => (p, fun _ captured => captured)) with
  | .ok b => match b.build with
    | .ok _ => none
    | .error err => some err
  | .error _ => none

/-- Some letters overlap one of them; building says so. -/
theorem build_overlap_iff_letters :
    refusal? .bytes [.loop (.symbols [⟨97, 99⟩]) 0 .plain, .symbols [⟨97, 98⟩]] =
        some (.overlappingAccept [0] [1]) ∧
      PatternsOverlap .bytes [.loop (.symbols [⟨97, 99⟩]) 0 .plain, .symbols [⟨97, 98⟩]] := by
  have hrefused : refusal? .bytes [.loop (.symbols [⟨97, 99⟩]) 0 .plain, .symbols [⟨97, 98⟩]] =
      some (.overlappingAccept [0] [1]) := by decide +kernel
  refine ⟨hrefused, ?_⟩
  unfold refusal? at hrefused
  split at hrefused
  · rename_i b hb
    split at hrefused
    · exact nomatch hrefused
    · rename_i err herr
      obtain rfl := Option.some.inj hrefused
      have hdepth : ∀ bound, b.build ≠ .error (.mergeDepthExceeded bound) := by
        rw [herr]
        exact fun _ h => nomatch h
      exact ((build_overlap_iff hb).1 hdepth).1 ⟨_, _, herr⟩
  · exact nomatch hrefused

end Matcher

end Polymatch
