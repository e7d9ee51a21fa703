import Polymatch.Proofs.Arena.Acceptance
import Polymatch.Proofs.Pattern.Orderly
import Polymatch.Proofs.Pattern.Unambiguous

/-! # Matching nothing

The syntax of a pattern tells whether it matches the empty input. The arena agrees: in front of any
node, and whatever happens to the arena later, what a pattern is attached as accepts at once if the
pattern matches nothing and the tail accepts.
-/

namespace Polymatch

namespace Arena

variable {g : Arena} {tail : Nat} {p : Prop}

/-- Nodes have been attached in front of the same tail; together they have the exits of the tail if `p` holds. -/
structure AttachedEach (g : Arena) (tail : Nat) (p : Prop) (result : List Nat × Arena) : Prop extends
    Develops g result.2 where
  lt : ∀ i ∈ result.1, i < result.2.size
  exits_iff : ∀ l, (∃ i ∈ result.1, result.2.Exits i l) ↔ p ∧ g.Exits tail l

theorem AttachedEach.unionAll {result : List Nat × Arena} (h : AttachedEach g tail p result) :
    Attached g tail p (result.2.unionAll result.1) := by
  have hlead := leading_unionAll h.tidy h.founded h.lt
  refine .lead h.toDevelops hlead (fun l ⟨i, hi, hl⟩ => Leaf.lt h.tidy hl (h.lt i hi)) fun l => ?_
  rw [← h.exits_iff]
  simp only [Exits, ← exists_and_right, and_assoc]

end Arena

namespace Pattern

open Arena
open Relation (TransGen)

variable {σ : Alphabet} {layout : Layout}

/-- Every repetition has counts, and they ascend. -/
def Counted (countings : List (List Nat)) : Prop := ∀ counts ∈ countings, counts ≠ [] ∧ counts.Pairwise (· ≤ ·)

/-- Among ascending counts, zero comes first. -/
theorem zero_mem_iff {counts : List Nat} (h : counts.Pairwise (· ≤ ·)) : 0 ∈ counts ↔ counts.head? = some 0 := by
  cases counts with
  | nil => simp
  | cons k counts =>
    have hle := (List.pairwise_cons.1 h).1
    rw [List.head?_cons, Option.some.injEq, List.mem_cons]
    exact ⟨fun hm => hm.elim Eq.symm fun hm => Nat.le_zero.1 (hle 0 hm), fun hk => .inl hk.symm⟩

/-- No copy is needed if zero is among the counts. -/
theorem head?_range_iff {counts : List Nat} (hne : counts ≠ []) (h : counts.Pairwise (· ≤ ·)) :
    (∀ k ∈ (List.range (counts.getLastD 0)).head?, hasCount counts k = true) ↔ counts.head? = some 0 := by
  have hlast : counts.getLastD 0 ∈ counts := by
    rw [List.getLastD_eq_getLast?, List.getLast?_eq_some_getLast hne, Option.getD_some]
    exact List.getLast_mem hne
  rw [← zero_mem_iff h, List.head?_range]
  split
  · rename_i hzero
    refine iff_of_true (fun k hk => ?_) (hzero ▸ hlast)
    cases hk
  · simp [hasCount_iff h]

mutual

/-- A pattern is attached as a node that passes to the tail if the pattern is nullable. -/
theorem passing_attach (owed : Marks) : ∀ {p : Pattern}, Counted p.countings →
    Passing (p.nullable = true) fun tail g => attach σ layout p tail owed g
  | symbols ranges => fun _ => by
    simp only [attach, nullable, Bool.false_eq_true]
    exact passing_edge σ ranges owed
  | sequence items => fun hc => by
    simpa only [attach, nullable] using passing_sequence owed hc
  | select branches => fun hc => by
    simp only [attach, nullable]
    exact ⟨fun hg hf ht => (attachedEach owed hc hg hf ht).unionAll⟩
  | counted body counts => fun hc => by
    obtain ⟨hcounts, hc⟩ := List.forall_mem_cons.1 hc
    have hcopies := passing_copies (passing_attach owed hc) (hasCount counts) (List.range (counts.getLastD 0))
    rw [head?_range_iff hcounts.1 hcounts.2, or_comm] at hcopies
    simpa only [attach_counted, nullable, Bool.or_eq_true, beq_iff_eq] using hcopies
  | loop body min policy => fun hc => by
    have hbody : Passing (body.nullable = true) fun tail g => attach σ layout body tail owed g :=
      passing_attach owed hc
    simpa only [attach_loop, nullable, Bool.or_eq_true, beq_iff_eq] using passing_loop hbody min
  | optional body => fun hc => by
    have hbody : Passing (body.nullable = true) fun tail g => attach σ layout body tail owed g :=
      passing_attach owed hc
    simp only [attach, nullable]
    exact ⟨fun hg hf ht => ((hbody.attached hg hf ht).union hg ht).congr (by simp)⟩
  | group label body => fun hc => by
    simp only [attach, nullable]
    cases layout.slotOf? label with
    | none => exact passing_attach owed hc
    | some slot =>
      have hbody : Passing (body.nullable = true) fun tail g =>
          attach σ layout body tail (owed ∪ .closing slot true) g :=
        passing_attach _ hc
      refine ⟨fun {g tail} hg hf ht => ?_⟩
      have htail : Attached g tail True
          (if body.nullable then g.annotate tail (.closing slot false) else (tail, g)) := by
        split
        · exact (Attached.self hg hf ht).annotate _
        · exact .self hg hf ht
      exact ((htail.next hbody).congr (and_iff_left trivial)).annotate _

theorem passing_sequence (owed : Marks) : ∀ {items : List Pattern}, Counted (allCountings items) →
    Passing (allNullable items = true) fun tail g =>
      ((attachSequence σ layout items tail owed g).1, (attachSequence σ layout items tail owed g).2.2)
  | [] => fun _ => by
    simp only [attachSequence, allNullable]
    exact ⟨fun hg hf ht => (Attached.self hg hf ht).congr (by simp)⟩
  | item :: rest => fun hc => by
    obtain ⟨hitem, hrest⟩ := List.forall_mem_append.1 hc
    have hrest : Passing (allNullable rest = true) _ := passing_sequence owed hrest
    have hitem : Passing (item.nullable = true) _ := passing_attach (if allNullable rest then owed else ∅) hitem
    simp only [attachSequence, attachSequence_owed, allNullable, Bool.and_eq_true]
    exact ⟨fun hg hf ht => (hrest.attached hg hf ht).next hitem⟩

theorem attachedEach (owed : Marks) : ∀ {branches : List Pattern}, Counted (allCountings branches) →
    ∀ {g : Arena} {tail : Nat}, g.Tidy → g.Founded → tail < g.size →
      AttachedEach g tail (anyNullable branches = true) (attachEach σ layout branches tail owed g)
  | [] => fun _ _ _ hg hf _ => by
    simp only [attachEach]
    exact ⟨.refl hg hf, List.forall_mem_nil _, fun l => by simp [anyNullable]⟩
  | branch :: rest => fun hc g tail hg hf ht => by
    obtain ⟨hbranch, hrest⟩ := List.forall_mem_append.1 hc
    have hfirst : Attached g tail (branch.nullable = true) (attach σ layout branch tail owed g) :=
      (passing_attach owed hbranch).attached hg hf ht
    have hothers := attachedEach owed hrest hfirst.tidy hfirst.founded (Nat.lt_of_lt_of_le ht hfirst.grows.size_le)
    simp only [attachEach]
    refine ⟨hfirst.toDevelops.trans hothers.toDevelops, List.forall_mem_cons.2 ⟨?_, hothers.lt⟩, fun l => ?_⟩
    · exact Nat.lt_of_lt_of_le hfirst.lt hothers.grows.size_le
    · simp only [List.mem_cons, exists_eq_or_imp]
      rw [hothers.exits_iff, hothers.grows.exits_iff hfirst.tidy hfirst.lt, hfirst.exits_iff,
        hfirst.exits_tail hg ht, ← or_and_right, anyNullable, Bool.or_eq_true]

end

/-- The fixed nodes are the one that does not accept and the one that does. -/
theorem faithful_new : Arena.new.Faithful := by
  refine Blank.faithful (fun i hi => absurd (recipe_new i) hi) (fun n hn => ?_) tidy_new
  cases hn
  rfl

theorem accepts_terminal : Arena.new.Accepts terminal :=
  (accepts_built (recipe_new terminal) (by decide) rfl).2 rfl

/-- Accepting without consuming anything is the way to spell the empty input. -/
theorem exists_spells_nil_iff {g : Arena} {i : Nat} (hg : g.Faithful) :
    (∃ e, Spells g (fun _ => False) i [] e) ↔ g.Accepts i := by
  constructor
  · rintro ⟨e, l, before, n, hp, hn, hacc, -⟩
    have hl : g.Leaf i l := ⟨before, hp⟩
    rcases Reaches.isLeaf hl with ⟨hb, -⟩ | ho
    · exact ⟨l, n, hl, hb, hn, hacc⟩
    · exact absurd ((hg l n hn fun e hr => by cases ho.symm.trans hr).1 hacc) (not_accepts_open ho)
  · rintro ⟨l, n, ⟨before, hp⟩, -, hn, hacc⟩
    exact ⟨_, l, before, n, hp, hn, hacc, rfl⟩

theorem isMatch_nil_iff {p : Pattern} (ho : p.overlap? σ = none) (hc : Counted p.countings) :
    (p.automaton σ ⟨p.labels, 0⟩).isMatch [] = true ↔ p.nullable = true := by
  have hattached : Attached .new terminal (p.nullable = true) (p.built σ) :=
    (passing_attach ∅ hc).attached tidy_new wellFormed_new.founded wellFormed_new.terminal_lt
  have hfaithful := faithful_new.develops tidy_new hattached.toDevelops
  have hterminal := (hattached.grows.accepts_iff tidy_new wellFormed_new.terminal_lt).2 accepts_terminal
  have hnil : [] ∈ (p.meaning σ ⟨p.labels, 0⟩).reads ↔
      ∃ e, Spells (p.built σ).2 (fun _ => False) (p.built σ).1 [] e := by
    simp only [Behaviour.mem_reads, spells_built ho, List.map_eq_nil_iff, exists_and_left, exists_eq_left]
  rw [(compiled_automaton ho ⟨p.labels, 0⟩).isMatch_iff, hnil, exists_spells_nil_iff hfaithful,
    hattached.accepts_iff tidy_new wellFormed_new.terminal_lt (.refl _) hattached.founded, and_iff_left hterminal]

/-- A pattern matches the empty input if it is nullable. In front of any node, it is attached as a node that accepts
before anything is consumed if the pattern is nullable and the tail accepts, whatever the arena becomes later. -/
theorem nullable_iff_accepts (p : Pattern) (σ : Alphabet) (hp : p.Disjoint) (hc : Counted p.countings)
    (hl : p.labels.Nodup) :
    (∃ a, p.compile σ = .ok a ∧ (a.isMatch [] = true ↔ p.nullable = true)) ∧
      ∀ (layout : Layout) (owed : Marks) (g : Arena) (tail : Nat), Operations new g →
        (∀ i, ¬ TransGen g.Operand i i) → tail < g.size →
        ∀ node g', p.attach σ layout tail owed g = (node, g') → (∀ i, ¬ TransGen g'.Operand i i) ∧
          (∀ h, Operations g' h → (∀ i, ¬ TransGen h.Operand i i) →
            (h.Accepts node ↔ p.nullable = true ∧ h.Accepts tail)) ∧
          (g.Targeted → g.Faithful → ((g'.resolve node).1.isAccepting = true ↔
            p.nullable = true ∧ (g'.resolve tail).1.isAccepting = true)) := by
  have ho := overlap?_of_disjoint σ p hp
  refine ⟨⟨_, compile_of_nodup ho hl, isMatch_nil_iff ho hc⟩, fun layout owed g tail hg hacyclic ht node g' hnode => ?_⟩
  have htidy := (hg.tidy tidy_new).1
  have hf := htidy.founded hacyclic
  have hattached : Attached g tail (p.nullable = true) (p.attach σ layout tail owed g) :=
    (passing_attach owed hc).attached htidy hf ht
  rw [hnode] at hattached
  refine ⟨hattached.founded.acyclic, fun h hh hacyclic' => ?_, fun htargeted hfaithful => ?_⟩
  · obtain ⟨htidy', hsettles⟩ := hh.tidy hattached.tidy
    exact hattached.accepts_iff htidy ht hsettles (htidy'.founded hacyclic')
  · have htargeted' := hattached.targeted htargeted
    have hfaithful' := hfaithful.develops htidy hattached.toDevelops
    have hresolve : ∀ {i}, i < g'.size → ((g'.resolve i).1.isAccepting = true ↔ g'.Accepts i) :=
      isAccepting_resolve hattached.tidy hattached.founded htargeted' hfaithful'
    rw [hresolve hattached.lt, hresolve (Nat.lt_of_lt_of_le ht hattached.grows.size_le)]
    exact hattached.accepts_iff htidy ht (.refl g') hattached.founded

/-- Some copies of a loop that may stop early, a group around a loop that gives way to its tail, and at least two
rounds of a choice that may be empty. -/
def vanishingLoops : Pattern :=
  sequence [counted (loop (symbols [⟨97, 98⟩]) 0 .extending) [1, 3],
    group [0] (loop (optional (symbols [⟨97, 99⟩])) 1 .limiting),
    loop (select [symbols [⟨98, 100⟩], counted (symbols [⟨98, 99⟩]) [0, 2]]) 2 .plain]

/-- The pattern accepts nothing at the end of the input, and in front of an open marker as soon as the marker does. -/
theorem nullable_iff_accepts_vanishingLoops :
    (∃ a, vanishingLoops.compile .bytes = .ok a ∧ a.isMatch [] = true) ∧
      ((vanishingLoops.built .bytes).2.resolve (vanishingLoops.built .bytes).1).1.isAccepting = true ∧
      ∀ node g', vanishingLoops.attach .bytes ⟨[[0]], 0⟩ 2 ∅ three = (node, g') → ∀ h, Operations g' h →
        (∀ i, ¬ TransGen h.Operand i i) → (h.Accepts node ↔ h.Accepts 2) := by
  have hdisjoint : vanishingLoops.Disjoint := by
    simp [Disjoint, vanishingLoops, classes, allClasses]
  have hcounted : Counted vanishingLoops.countings := by
    simp [Counted, vanishingLoops, countings, allCountings]
  have hnullable : vanishingLoops.nullable = true := by decide
  obtain ⟨⟨a, ha, hmatch⟩, hattach⟩ :=
    nullable_iff_accepts vanishingLoops .bytes hdisjoint hcounted (show vanishingLoops.labels.Nodup by decide)
  refine ⟨⟨a, ha, hmatch.2 hnullable⟩, ?_, fun node g' hnode h hh hacyclic => ?_⟩
  · have htargeted : new.Targeted := fun i n hn e he => ((wellFormed_new.content i n hn).edge e he).next_lt
    have hbuilt := (hattach ⟨vanishingLoops.labels, 0⟩ ∅ new terminal .refl wellFormed_new.founded.acyclic
      wellFormed_new.terminal_lt _ _ rfl).2.2 htargeted faithful_new
    exact hbuilt.2 ⟨hnullable, by decide +kernel⟩
  · have hthree := (open_three.founded (operations_three.tidy tidy_new).1).acyclic
    rw [((hattach _ ∅ three 2 operations_three hthree (by decide) node g' hnode).2.1 h hh hacyclic),
      and_iff_right hnullable]

end Pattern

end Polymatch
