import Mathlib.Algebra.Order.BigOperators.Group.Finset
import Polymatch.Proofs.Automaton.Components
import Polymatch.Proofs.Automaton.Runs

/-! # Cycles are found

Every step follows an edge or ends a visit, so the search comes to its end, with every state in a
complete component. The states that it marks are those on cycles.
-/

namespace Polymatch.Automaton

open Relation (ReflTransGen TransGen)

namespace Search

section Steps

variable {a : Automaton} {s : Search} {v w : Nat} {visits : List Visit}

theorem entered_step (h : s.Sound a) (hf : s.Followed a) (ha : a.Targeted) (hv : s.Entered v) :
    (s.step a).Entered v := by
  unfold Search.step
  split
  · exact hv
  · rename_i u w pending visits hvisits
    by_cases hnew : s.Entered w
    · exact (entered_congr (follow_of_entered (s := { s with visits := ⟨u, pending⟩ :: visits }) hnew _).1).2 hv
    · have hw : w < a.stateCount := ha u w (hf.joins _ (hvisits ▸ List.mem_cons_self) w List.mem_cons_self)
      rw [follow_of_not_entered (s := { s with visits := ⟨u, pending⟩ :: visits }) hnew]
      refine (entered_enter (s := { s with visits := ⟨u, pending⟩ :: visits }) ?_ hw _ v).2 (.inr hv)
      exact ⟨h.sized.index, h.sized.low, h.sized.onStack, h.sized.cyclic⟩
  · rename_i u visits hvisits
    exact (entered_congr (leave_index_visits { s with visits } u _).1).2 hv

/-- The states of the table that are still to be entered. -/
def unentered (a : Automaton) (s : Search) : Finset Nat :=
  (Finset.range a.stateCount).filter (s.index? · = none)

/-- The steps that are left: one for every edge that is still to be followed, and one for every visit
that is still to be ended. -/
def remaining (a : Automaton) (s : Search) : Nat :=
  (s.visits.flatMap (·.pending)).length + s.visits.length + ∑ v ∈ s.unentered a, ((a.successors v).length + 1)

theorem remaining_congr {t : Search} (hindex : t.index = s.index) (hvisits : t.visits = s.visits) :
    t.remaining a = s.remaining a := by
  have hunentered : t.unentered a = s.unentered a := by
    ext v
    rw [unentered, unentered, Finset.mem_filter, Finset.mem_filter, index?, index?, hindex]
  rw [remaining, remaining, hvisits, hunentered]

theorem remaining_enter (h : s.Sized a.stateCount) (hv : v < a.stateCount) (hnew : ¬ s.Entered v) :
    (s.enter v (a.successors v)).remaining a = s.remaining a := by
  have hnone : s.index? v = none := Option.not_isSome_iff_eq_none.1 hnew
  have hv' : v ∈ s.unentered a := Finset.mem_filter.2 ⟨Finset.mem_range.2 hv, hnone⟩
  have herase : (s.enter v (a.successors v)).unentered a = (s.unentered a).erase v := by
    ext x
    rw [Finset.mem_erase, unentered, unentered, Finset.mem_filter, Finset.mem_filter, index?_enter h hv]
    by_cases hx : x = v <;> simp [hx]
  rw [remaining, remaining, herase, ← Finset.add_sum_erase _ _ hv']
  simp only [Search.enter, List.flatMap_cons, List.length_append, List.length_cons]
  omega

/-- A visit that has one thing less to do. -/
theorem remaining_visits {visit : Visit} (visit' : Visit) (hvisits : s.visits = visit :: visits)
    (hless : visit'.pending.length + 1 = visit.pending.length) :
    { s with visits := visit' :: visits }.remaining a + 1 = s.remaining a := by
  have hunentered : { s with visits := visit' :: visits }.unentered a = s.unentered a := rfl
  rw [remaining, remaining, hunentered, hvisits]
  simp only [List.flatMap_cons, List.length_append, List.length_cons]
  omega

theorem remaining_step (h : s.Sound a) (hf : s.Followed a) (ha : a.Targeted) (hvisits : s.visits ≠ []) :
    (s.step a).remaining a + 1 = s.remaining a := by
  unfold Search.step
  split
  · rename_i hnil
    exact absurd hnil hvisits
  · rename_i v w pending visits hvisits
    have hless := remaining_visits (a := a) ⟨v, pending⟩ hvisits rfl
    by_cases hnew : s.Entered w
    · obtain ⟨hindex, hvisits'⟩ := follow_of_entered (s := { s with visits := ⟨v, pending⟩ :: visits })
        (v := v) hnew (a.successors w)
      rw [remaining_congr hindex hvisits', hless]
    · have hw : w < a.stateCount := ha v w (hf.joins _ (hvisits ▸ List.mem_cons_self) w List.mem_cons_self)
      rw [follow_of_not_entered (s := { s with visits := ⟨v, pending⟩ :: visits }) hnew]
      have hsized : { s with visits := ⟨v, pending⟩ :: visits }.Sized a.stateCount :=
        ⟨h.sized.index, h.sized.low, h.sized.onStack, h.sized.cyclic⟩
      rw [remaining_enter hsized hw hnew, hless]
  · rename_i v visits hvisits
    obtain ⟨hindex, hvisits'⟩ := leave_index_visits { s with visits } v ((a.successors v).contains v)
    have hunentered : { s with visits }.unentered a = s.unentered a := rfl
    rw [remaining_congr hindex hvisits', remaining, remaining, hunentered, hvisits]
    simp only [List.flatMap_cons, List.nil_append, List.length_cons]
    omega

/-- What holds while no visit is under way. -/
structure Idle (a : Automaton) (s : Search) : Prop where
  sound : s.Sound a
  followed : s.Followed a
  visits_eq : s.visits = []

/-- With no fewer rounds than there are steps left, the visits come to their ends. -/
theorem idle_run (ha : a.Targeted) {fuel : Nat} (h : s.Sound a) (hf : s.Followed a) (hfuel : s.remaining a ≤ fuel) :
    (s.run a fuel).Idle a ∧ ∀ v, s.Entered v → (s.run a fuel).Entered v := by
  induction fuel generalizing s with
  | zero =>
    refine ⟨⟨h, hf, ?_⟩, fun _ hv => hv⟩
    by_contra hvisits
    have := remaining_step h hf ha hvisits
    omega
  | succ fuel ih =>
    unfold run
    split
    · rename_i hvisits
      exact ⟨⟨h, hf, List.isEmpty_iff.1 hvisits⟩, fun _ hv => hv⟩
    · rename_i hvisits
      have hstep := remaining_step h hf ha (mt List.isEmpty_iff.2 hvisits)
      obtain ⟨hidle, hentered⟩ := ih (h.step hf ha) (hf.step h ha) (by omega)
      exact ⟨hidle, fun v hv => hentered v (entered_step h hf ha hv)⟩

theorem remaining_le_stepBound (hvisits : s.visits = []) : s.remaining a ≤ a.stepBound := by
  have hsum : a.stepBound = ∑ v ∈ Finset.range a.stateCount, ((a.successors v).length + 1) := rfl
  rw [remaining, hvisits, hsum]
  simp only [List.flatMap_nil, List.length_nil, Nat.zero_add]
  exact Finset.sum_le_sum_of_subset (Finset.filter_subset ..)

theorem idle_explore (ha : a.Targeted) (h : s.Idle a) (hv : v < a.stateCount) :
    (a.explore s v).Idle a ∧ (a.explore s v).Entered v ∧ ∀ w, s.Entered w → (a.explore s v).Entered w := by
  unfold explore
  split
  · rename_i hnone
    have hnew : ¬ s.Entered v := Option.not_isSome_iff_eq_none.2 hnone
    have hsound := h.sound.enter hv hnew fun caller hcaller => by
      rw [h.visits_eq] at hcaller
      cases hcaller
    have hfollowed := Followed.enter h.sound.sized hv h.followed.joins
      fun x y hx hxy => .inr (h.followed.entered x y hx hxy)
    have hentered := entered_enter h.sound.sized hv (a.successors v)
    obtain ⟨hidle, hkept⟩ := idle_run ha hsound hfollowed
      ((remaining_enter h.sound.sized hv hnew).trans_le (remaining_le_stepBound h.visits_eq))
    exact ⟨hidle, hkept v ((hentered v).2 (.inl rfl)), fun w hw => hkept w ((hentered w).2 (.inr hw))⟩
  · rename_i i hi
    exact ⟨h, Option.isSome_iff_exists.2 ⟨i, hi⟩, fun _ hw => hw⟩

theorem idle_start (a : Automaton) : (start a.stateCount).Idle a := by
  have hnew : ∀ v, ¬ (start a.stateCount).Entered v := fun v => by
    rw [Entered, index?, start, Array.getD_eq_getD_getElem?, Array.getElem?_replicate]
    split <;> simp
  have hfalse : ∀ v, (Array.replicate a.stateCount false).getD v false = false := fun v => by
    rw [Array.getD_eq_getD_getElem?, Array.getElem?_replicate]
    split <;> rfl
  exact {
    sound := {
      sized := ⟨Array.size_replicate, Array.size_replicate, Array.size_replicate, Array.size_replicate⟩
      lt_counter := fun v i hi => absurd (Option.isSome_iff_exists.2 ⟨i, hi⟩) (hnew v)
      holds_iff := fun v => iff_of_false (Bool.eq_false_iff.1 (hfalse v)) List.not_mem_nil
      entered := fun v hv => absurd hv List.not_mem_nil
      descending := .nil
      layered := .nil
      closed := fun v w hv => absurd hv.1 (hnew v)
      cyclic_iff := fun v => iff_of_false (Bool.eq_false_iff.1 (hfalse v)) fun hv => hnew v hv.1.1 }
    followed := ⟨fun _ hv => absurd hv List.not_mem_nil, fun v w hv => absurd hv (hnew v)⟩
    visits_eq := rfl }

theorem idle_foldl_explore (ha : a.Targeted) {roots : List Nat} (hroots : ∀ v ∈ roots, v < a.stateCount)
    (h : s.Idle a) : (roots.foldl a.explore s).Idle a ∧
      ∀ v, s.Entered v ∨ v ∈ roots → (roots.foldl a.explore s).Entered v := by
  induction roots generalizing s with
  | nil => exact ⟨h, fun v hv => hv.resolve_right List.not_mem_nil⟩
  | cons root roots ih =>
    obtain ⟨hidle, hroot, hkept⟩ := idle_explore ha h (hroots root List.mem_cons_self)
    obtain ⟨hidle, hentered⟩ := ih (fun v hv => hroots v (List.mem_cons_of_mem _ hv)) hidle
    refine ⟨hidle, fun v hv => hentered v ?_⟩
    rcases hv with hv | hv
    · exact .inl (hkept v hv)
    · rcases List.mem_cons.1 hv with rfl | hv
      · exact .inl hroot
      · exact .inr hv

end Steps

end Search

theorem isCyclic_iff {a : Automaton} (ha : a.Targeted) (v : Nat) : a.isCyclic v = true ↔ TransGen a.Joins v v := by
  obtain ⟨hidle, hentered⟩ := Search.idle_foldl_explore ha (fun v hv => List.mem_range.1 hv) (Search.idle_start a)
  refine (hidle.sound.cyclic_iff v).trans (and_iff_right_of_imp fun hcycle => ?_)
  -- a state with an edge lies in the table, and its component is complete
  have hv : v < a.stateCount := by
    obtain ⟨u, -, huv⟩ := TransGen.tail'_iff.1 hcycle
    exact ha u v huv
  refine ⟨hentered v (.inr (List.mem_range.2 hv)), ?_⟩
  have hlayered := hidle.sound.layered
  rw [hidle.visits_eq] at hlayered
  generalize (List.foldl a.explore _ _).stack = stack at hlayered ⊢
  cases hlayered
  exact List.not_mem_nil

/-- In a table whose edges stay in it, exactly the states that a path of at least one edge leads back to are
marked as cyclic. -/
theorem isCyclic_ofNodes_iff {nodes : Array Node} (h : ∀ n ∈ nodes, ∀ e ∈ n.edges.edges, e.next < nodes.size)
    (start v : Nat) : (ofNodes nodes start).isCyclic v = true ↔ TransGen (ofNodes nodes start).Joins v v := by
  apply isCyclic_iff
  rintro u w ⟨e, he, rfl⟩
  exact forall_node (a := ofNodes nodes start) h (fun _ he => nomatch he) u e he

/-- Two letters, not next to each other, that lead to two states. -/
def twoLetters (v w : Nat) : EdgeMap where
  edges := [⟨97, 98, v, .range 1, ∅⟩, ⟨99, 100, w, .range 1, ∅⟩]
  canonical := ⟨by simp, List.pairwise_pair.2 ⟨by simp, fun h => absurd h (by simp)⟩⟩

/-- A state in front of two rings, one of two states and one of a single state, and a state behind them. -/
def ringsBetween : Array Node := #[⟨twoLetters 1 1, ∅, ∅⟩, ⟨twoLetters 2 2, ∅, ∅⟩, ⟨twoLetters 1 3, ∅, ∅⟩,
  ⟨twoLetters 3 4, ∅, ∅⟩, ⟨∅, .range 1, ∅⟩]

theorem isCyclic_ofNodes_iff_ringsBetween :
    (∀ n ∈ ringsBetween, ∀ e ∈ n.edges.edges, e.next < ringsBetween.size) ∧
      TransGen (ofNodes ringsBetween 0).Joins 2 2 ∧ ¬ TransGen (ofNodes ringsBetween 0).Joins 0 0 := by
  have h : ∀ n ∈ ringsBetween, ∀ e ∈ n.edges.edges, e.next < ringsBetween.size := by decide +kernel
  have hring : (ofNodes ringsBetween 0).isCyclic 2 = true := by decide +kernel
  have hfront : ¬ (ofNodes ringsBetween 0).isCyclic 0 = true := by decide +kernel
  exact ⟨h, (isCyclic_ofNodes_iff h 0 2).1 hring, mt (isCyclic_ofNodes_iff h 0 0).2 hfront⟩

end Polymatch.Automaton
