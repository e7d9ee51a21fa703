import Polymatch.Proofs.Errors
import Polymatch.Proofs.Pattern.Compile
import Polymatch.Proofs.Pattern.Language

/-! # Recognised languages

A pattern without exclusive loops compiles, and its automaton matches the words of
its language.
-/

namespace Polymatch

theorem ne_of_mem_zip_tail {α : Type} {l : List α} (h : l.Nodup) : ∀ p ∈ l.zip l.tail, p.1 ≠ p.2 := by
  induction l with
  | nil => simp
  | cons a rest ih =>
    cases rest with
    | nil => simp
    | cons b rest =>
      simp only [List.tail_cons, List.zip_cons_cons, List.forall_mem_cons]
      refine ⟨?_, ih (List.nodup_cons.1 h).2⟩
      rintro rfl
      exact (List.nodup_cons.1 h).1 List.mem_cons_self

/-- Labels in order are distinct if no two neighbours are equal. -/
theorem nodup_of_ne_zip_tail {labels : List Label} (h : labels.Pairwise fun a b => ¬ b < a)
    (hne : ∀ p ∈ labels.zip labels.tail, p.1 ≠ p.2) : labels.Nodup := by
  induction labels with
  | nil => exact .nil
  | cons a rest ih =>
    cases rest with
    | nil => exact List.nodup_singleton a
    | cons b rest =>
      obtain ⟨hfirst, hrest⟩ := List.pairwise_cons.1 h
      rw [List.tail_cons, List.zip_cons_cons, List.forall_mem_cons] at hne
      have hlt : a < b := lt_of_le_of_ne (not_lt.1 (hfirst b List.mem_cons_self)) hne.1
      refine List.nodup_cons.2 ⟨fun hmem => ?_, ih hrest hne.2⟩
      rcases List.mem_cons.1 hmem with rfl | hmem
      · exact hne.1 rfl
      · exact (List.pairwise_cons.1 hrest).1 a hmem hlt

namespace Layout

variable {labels : List Label}

/-- The labels in their order, in which equal ones are neighbours. -/
def sorted (labels : List Label) : List Label := labels.mergeSort fun a b => !decide (b < a)

theorem sorted_perm (labels : List Label) : (sorted labels).Perm labels := List.mergeSort_perm ..

theorem sorted_pairwise (labels : List Label) : (sorted labels).Pairwise fun a b => ¬ b < a := by
  simpa [sorted] using @List.pairwise_mergeSort _ (fun a b : Label => !decide (b < a))
    (fun a b c => by simpa using le_trans) (fun a b => by simpa using le_total a b) labels

theorem duplicate?_eq (labels : List Label) :
    duplicate? labels = (((sorted labels).zip (sorted labels).tail).find? fun p => p.1 = p.2).map (·.1) := rfl

theorem duplicate?_eq_none_iff : duplicate? labels = none ↔ labels.Nodup := by
  rw [← (sorted_perm labels).nodup_iff]
  simp only [duplicate?_eq, Option.map_eq_none_iff, List.find?_eq_none, decide_eq_true_eq]
  exact ⟨nodup_of_ne_zip_tail (sorted_pairwise labels), ne_of_mem_zip_tail⟩

/-- Distinct labels have a layout, and only those. -/
theorem ofLabels_eq_ok_iff {layout : Layout} : ofLabels labels = .ok layout ↔ labels.Nodup ∧ layout = ⟨labels, 0⟩ := by
  rw [ofLabels, ← duplicate?_eq_none_iff]
  cases duplicate? labels with
  | none => simp [eq_comm]
  | some label => simp

theorem ofLabels_of_nodup (h : labels.Nodup) : ofLabels labels = .ok ⟨labels, 0⟩ := ofLabels_eq_ok_iff.2 ⟨h, rfl⟩

end Layout

namespace Pattern

variable {σ : Alphabet} {p : Pattern}

theorem classOverlap?_eq_none {ranges : List Interval} (h : ranges.Pairwise Interval.Apart) :
    Arena.classOverlap? σ ranges = none := by
  have hapart : (Arena.classEdges σ ranges Arena.nothing ∅).Pairwise Edge.Apart := by
    rw [Arena.classEdges, List.pairwise_map]
    refine h.imp fun {r s} hrs x hr hs => hrs x ?_ ?_
    all_goals
      simp only [Edge.group, Interval.contains_iff, Nat.lt_min] at *
      omega
  obtain ⟨m, hm⟩ := EdgeMap.ofEdges_of_apart hapart
  rw [Arena.classOverlap?, hm]

mutual

theorem overlap?_eq_none (σ : Alphabet) : ∀ p : Pattern, p.Standard → p.overlap? σ = none
  | symbols ranges => classOverlap?_eq_none
  | sequence items => fun h => overlapFromRight?_eq_none σ items h
  | select branches => fun h => overlapFromLeft?_eq_none σ branches h
  | counted body counts => fun h => by
    rw [overlap?, overlap?_eq_none σ body h.1, ite_self]
  | loop body min policy => fun h => overlap?_eq_none σ body h.1
  | optional body => fun h => overlap?_eq_none σ body h
  | group label body => fun h => overlap?_eq_none σ body h

theorem overlapFromRight?_eq_none (σ : Alphabet) : ∀ items : List Pattern, AllStandard items →
    overlapFromRight? σ items = none
  | [] => fun _ => rfl
  | p :: rest => fun h => by
    rw [overlapFromRight?, overlap?_eq_none σ p h.1, overlapFromRight?_eq_none σ rest h.2]
    rfl

theorem overlapFromLeft?_eq_none (σ : Alphabet) : ∀ branches : List Pattern, AllStandard branches →
    overlapFromLeft? σ branches = none
  | [] => fun _ => rfl
  | p :: rest => fun h => by
    rw [overlapFromLeft?, overlap?_eq_none σ p h.1, overlapFromLeft?_eq_none σ rest h.2]
    rfl

end

theorem Compiled.isMatch_iff {layout : Layout} {a : Automaton} (h : Compiled σ layout p a) (w : List Nat) :
    a.isMatch w = true ↔ w ∈ (p.meaning σ layout).reads := by
  rw [Behaviour.mem_reads, ← h.accepts, Automaton.isMatch_iff_of_patterns h.patterns]

/-- A pattern has a layout if its classes name no ordinal twice and its labels are distinct. The layout lists
the labels. -/
theorem checkedLayout_eq_ok_iff {layout : Layout} :
    p.checkedLayout σ = .ok layout ↔ p.overlap? σ = none ∧ p.labels.Nodup ∧ layout = ⟨p.labels, 0⟩ := by
  rw [← Layout.ofLabels_eq_ok_iff, checkedLayout, Pattern.layout]
  cases Layout.ofLabels p.labels <;> cases p.overlap? σ <;> simp

theorem checkedLayout_of_nodup (ho : p.overlap? σ = none) (hl : p.labels.Nodup) :
    p.checkedLayout σ = .ok ⟨p.labels, 0⟩ :=
  checkedLayout_eq_ok_iff.2 ⟨ho, hl, rfl⟩

/-- A pattern compiles under the same conditions. -/
theorem compile_eq_ok_iff {a : Automaton} : p.compile σ = .ok a ↔
    p.overlap? σ = none ∧ p.labels.Nodup ∧ a = p.automaton σ ⟨p.labels, 0⟩ := by
  refine map_eq_ok.trans ?_
  simp only [checkedLayout_eq_ok_iff]
  constructor
  · rintro ⟨layout, ⟨ho, hl, rfl⟩, rfl⟩
    exact ⟨ho, hl, rfl⟩
  · rintro ⟨ho, hl, rfl⟩
    exact ⟨_, ⟨ho, hl, rfl⟩, rfl⟩

theorem compile_of_nodup (ho : p.overlap? σ = none) (hl : p.labels.Nodup) :
    p.compile σ = .ok (p.automaton σ ⟨p.labels, 0⟩) :=
  compile_eq_ok_iff.2 ⟨ho, hl, rfl⟩

/-- A pattern with plain loops, disjoint ranges, ascending counts and distinct labels compiles, and
its automaton matches exactly the inputs of the pattern's language. -/
theorem exists_compile_isMatch_iff (σ : Alphabet) (p : Pattern) (hp : p.Standard) (hl : p.labels.Nodup) :
    ∃ a, p.compile σ = .ok a ∧ ∀ w, σ.Admits w → (a.isMatch w = true ↔ w ∈ p.lang) := by
  have ho := overlap?_eq_none σ p hp
  refine ⟨p.automaton σ ⟨p.labels, 0⟩, compile_of_nodup ho hl, fun w hw => ?_⟩
  have hreads := denotes_behave (σ := σ) ⟨p.labels, 0⟩ p ∅ (fun _ : True => hp) .done .done w
  rw [Behaviour.reads_done, Behaviour.leading_self, mul_one, lax_eq_lang p hp] at hreads
  rw [(compiled_automaton ho ⟨p.labels, 0⟩).isMatch_iff]
  exact ⟨hreads.1, hreads.2 trivial hw⟩

/-- At least one round of a body that matches nothing, in front of a group around an empty class or
none or two copies of a symbol. -/
def nestedLoops : Pattern :=
  sequence [loop (optional (loop (symbols [⟨97, 98⟩, ⟨99, 101⟩]) 0 .plain)) 1 .plain,
    group [0] (select [symbols [], counted (symbols [⟨98, 99⟩]) [0, 2]])]

theorem exists_compile_isMatch_iff_nestedLoops :
    nestedLoops.Standard ∧ nestedLoops.labels.Nodup ∧
      ∃ a, nestedLoops.compile .bytes = .ok a ∧
        ∀ w, Alphabet.bytes.Admits w → (a.isMatch w = true ↔ w ∈ nestedLoops.lang) := by
  have hstandard : nestedLoops.Standard := by
    have hapart : Interval.Apart ⟨97, 98⟩ ⟨99, 101⟩ := Interval.apart_of_le (by decide)
    simp [nestedLoops, Standard, AllStandard, hapart]
  have hlabels : nestedLoops.labels.Nodup := by decide
  exact ⟨hstandard, hlabels, exists_compile_isMatch_iff .bytes nestedLoops hstandard hlabels⟩

end Pattern

end Polymatch
