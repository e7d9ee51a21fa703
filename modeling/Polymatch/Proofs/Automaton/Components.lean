import Mathlib.Data.List.TakeWhile
import Polymatch.Proofs.Automaton.Layers

/-! # Components

One step of the search keeps the stack in layers. When a visit ends whose state reaches nothing below
its layer, the layer is a component, and its states are on cycles if there are several of them or if
the only one has an edge to itself.
-/

namespace Polymatch.Automaton

open Relation (ReflTransGen TransGen)

/-- An edge leads from one state to another. -/
def Joins (a : Automaton) (v w : Nat) : Prop := ∃ e ∈ (a.node v).edges.edges, e.next = w

theorem mem_successors {a : Automaton} {v w : Nat} : w ∈ a.successors v ↔ a.Joins v w := List.mem_map

/-- Every edge leads to a state of the table. -/
def Targeted (a : Automaton) : Prop := ∀ v w, a.Joins v w → w < a.stateCount

namespace Search

theorem getD_setIfInBounds {α : Type} {xs : Array α} {i : Nat} (hi : i < xs.size) (x d : α) (j : Nat) :
    (xs.setIfInBounds i x).getD j d = if j = i then x else xs.getD j d := by
  rw [Array.getD_eq_getD_getElem?, Array.getElem?_setIfInBounds, Array.getD_eq_getD_getElem?]
  by_cases h : j = i
  · simp [h, hi]
  · simp [h, Ne.symm h]

theorem size_setAll (value : Bool) (states : List Nat) (flags : Array Bool) :
    (setAll value states flags).size = flags.size := by
  induction states generalizing flags with
  | nil => rfl
  | cons v states ih => exact (ih _).trans Array.size_setIfInBounds

theorem getD_setAll {value : Bool} {states : List Nat} {flags : Array Bool} (h : ∀ v ∈ states, v < flags.size)
    (w : Nat) : (setAll value states flags).getD w false = if w ∈ states then value else flags.getD w false := by
  induction states generalizing flags with
  | nil => simp [setAll]
  | cons v states ih =>
    have hrest : ∀ u ∈ states, u < (flags.setIfInBounds v value).size := fun u hu => by
      rw [Array.size_setIfInBounds]
      exact h u (List.mem_cons_of_mem _ hu)
    refine (ih hrest).trans ?_
    rw [getD_setIfInBounds (h v List.mem_cons_self)]
    by_cases hw : w ∈ states <;> simp [hw]

/-- The number of a state. -/
def number (s : Search) (v : Nat) : Nat := (s.index? v).getD 0

def Entered (s : Search) (v : Nat) : Prop := (s.index? v).isSome = true

/-- The component of a state is complete. -/
def Complete (s : Search) (v : Nat) : Prop := s.Entered v ∧ v ∉ s.stack

structure Sized (s : Search) (states : Nat) : Prop where
  index : s.index.size = states
  low : s.low.size = states
  onStack : s.onStack.size = states
  cyclic : s.cyclic.size = states

/-- What holds between the steps of a search. -/
structure Sound (a : Automaton) (s : Search) : Prop where
  sized : s.Sized a.stateCount
  lt_counter : ∀ v i, s.index? v = some i → i < s.counter
  holds_iff : ∀ v, s.holds v = true ↔ v ∈ s.stack
  entered : ∀ v ∈ s.stack, s.Entered v
  descending : s.stack.Pairwise fun v w => s.number w < s.number v
  layered : Layered a.Joins s.number s.lowest s.visits s.stack
  closed : ∀ v w, s.Complete v → a.Joins v w → s.Complete w
  cyclic_iff : ∀ v, s.cyclic.getD v false = true ↔ s.Complete v ∧ TransGen a.Joins v v

/-- The edges of entered states lead to entered states, but for those that visits have still to follow. -/
structure Followed (a : Automaton) (s : Search) : Prop where
  joins : ∀ visit ∈ s.visits, ∀ w ∈ visit.pending, a.Joins visit.state w
  entered : ∀ v w, s.Entered v → a.Joins v w →
    s.Entered w ∨ ∃ visit ∈ s.visits, visit.state = v ∧ w ∈ visit.pending

section Steps

variable {a : Automaton} {s : Search} {v w : Nat} {visits : List Visit} {pending above below : List Nat}

theorem Sized.lt_of_entered (h : s.Sized a.stateCount) (hv : s.Entered v) : v < a.stateCount := by
  rw [← h.index]
  by_contra hge
  simp [Entered, index?, Array.getD_eq_getD_getElem?, Array.getElem?_eq_none (Nat.le_of_not_lt hge)] at hv

theorem index?_enter (h : s.Sized a.stateCount) (hv : v < a.stateCount) (successors : List Nat) (x : Nat) :
    (s.enter v successors).index? x = if x = v then some s.counter else s.index? x :=
  getD_setIfInBounds (h.index ▸ hv) ..

theorem lowest_enter (h : s.Sized a.stateCount) (hv : v < a.stateCount) (successors : List Nat) (x : Nat) :
    (s.enter v successors).lowest x = if x = v then s.counter else s.lowest x :=
  getD_setIfInBounds (h.low ▸ hv) ..

theorem entered_enter (h : s.Sized a.stateCount) (hv : v < a.stateCount) (successors : List Nat) (x : Nat) :
    (s.enter v successors).Entered x ↔ x = v ∨ s.Entered x := by
  rw [Entered, index?_enter h hv]
  by_cases hx : x = v <;> simp [hx, Entered]

/-- A state that is entered goes onto the stack; nothing is complete that was not complete. -/
theorem Sound.enter (h : s.Sound a) (hv : v < a.stateCount) (hnew : ¬ s.Entered v)
    (hcalled : ∀ caller ∈ s.visits.head?, ReflTransGen a.Joins caller.state v) :
    (s.enter v (a.successors v)).Sound a := by
  have hfresh : v ∉ s.stack := fun hmem => hnew (h.entered v hmem)
  have hne : ∀ x ∈ s.stack, x ≠ v := fun x hx heq => hfresh (heq ▸ hx)
  have hnumber : ∀ x ∈ s.stack, (s.enter v (a.successors v)).number x = s.number x := fun x hx => by
    rw [number, index?_enter h.sized hv, if_neg (hne x hx), number]
  have hnumberv : (s.enter v (a.successors v)).number v = s.counter := by
    rw [number, index?_enter h.sized hv, if_pos rfl, Option.getD_some]
  have hlow : ∀ x ∈ s.stack, (s.enter v (a.successors v)).lowest x = s.lowest x := fun x hx => by
    rw [lowest_enter h.sized hv, if_neg (hne x hx)]
  have hcomplete : ∀ x, (s.enter v (a.successors v)).Complete x ↔ s.Complete x := fun x => by
    rw [Complete, Complete, entered_enter h.sized hv]
    show (x = v ∨ s.Entered x) ∧ x ∉ v :: s.stack ↔ _
    rw [List.mem_cons]
    by_cases hx : x = v
    · simp [hx, hnew]
    · simp [hx]
  exact {
    sized := ⟨by simpa [Search.enter] using h.sized.index, by simpa [Search.enter] using h.sized.low,
      by simpa [Search.enter] using h.sized.onStack, h.sized.cyclic⟩
    lt_counter := fun x i hi => by
      rw [index?_enter h.sized hv] at hi
      show i < s.counter + 1
      split at hi
      · obtain rfl := Option.some.inj hi
        exact Nat.lt_succ_self _
      · exact Nat.lt_succ_of_lt (h.lt_counter x i hi)
    holds_iff := fun x => by
      refine (Bool.eq_iff_iff.1 (getD_setIfInBounds (h.sized.onStack ▸ hv) ..)).trans ?_
      show _ ↔ x ∈ v :: s.stack
      rw [List.mem_cons, ← h.holds_iff]
      by_cases hx : x = v <;> simp [hx, holds]
    entered := fun x hx => (entered_enter h.sized hv ..).2 ((List.mem_cons.1 hx).imp_right (h.entered x))
    descending := by
      refine List.pairwise_cons.2 ⟨fun x hx => ?_, h.descending.imp_of_mem fun {x y} hx hy hxy => ?_⟩
      · obtain ⟨i, hi⟩ := Option.isSome_iff_exists.1 (h.entered x hx)
        rw [hnumber x hx, hnumberv, number, hi]
        exact h.lt_counter x i hi
      · rwa [hnumber x hx, hnumber y hy]
    layered := (h.layered.congr hnumber hlow).enter hcalled (by rw [hnumberv, lowest_enter h.sized hv, if_pos rfl])
      fun y hy => mem_successors.2 hy
    closed := fun x y hx hxy => (hcomplete y).2 (h.closed x y ((hcomplete x).1 hx) hxy)
    cyclic_iff := fun x => by
      rw [hcomplete]
      exact h.cyclic_iff x }

theorem lowest_lower (h : s.Sized a.stateCount) (hv : v < a.stateCount) (bound x : Nat) :
    (s.lower v bound).lowest x = if x = v then min (s.lowest v) bound else s.lowest x :=
  getD_setIfInBounds (h.low ▸ hv) ..

theorem Sized.lower (h : s.Sized a.stateCount) (bound : Nat) : (s.lower v bound).Sized a.stateCount :=
  ⟨h.index, by simpa [Search.lower] using h.low, h.onStack, h.cyclic⟩

/-- Only the layers depend on the visits and on how low the states reach. -/
theorem Sound.of_layered (h : s.Sound a) {low : Array Nat} (hsize : low.size = a.stateCount)
    (hlayered : Layered a.Joins s.number (low.getD · 0) visits s.stack) :
    { s with visits, low }.Sound a where
  sized := ⟨h.sized.index, hsize, h.sized.onStack, h.sized.cyclic⟩
  lt_counter := h.lt_counter
  holds_iff := h.holds_iff
  entered := h.entered
  descending := h.descending
  layered := hlayered
  closed := h.closed
  cyclic_iff := h.cyclic_iff

theorem Sound.follow (h : s.Sound a) (ha : a.Targeted) (hvw : a.Joins v w)
    (hvisits : s.visits = ⟨v, w :: pending⟩ :: visits) :
    ({ s with visits := ⟨v, pending⟩ :: visits }.follow v w (a.successors w)).Sound a := by
  have hlayered := hvisits ▸ h.layered
  have hvs : v ∈ s.stack := hlayered.state_mem List.mem_cons_self
  have hv : v < a.stateCount := h.sized.lt_of_entered (h.entered v hvs)
  unfold Search.follow
  split
  · -- the edge leads to a state that is not on the stack, so the visit may pass it by
    rename_i hnone
    have hnew : ¬ s.Entered w := fun hw => by
      rw [Entered, show s.index? w = none from hnone] at hw
      cases hw
    have hpassed := h.of_layered h.sized.low (hlayered.next fun hw => absurd (h.entered w hw) hnew)
    refine hpassed.enter (ha v w hvw) hnew fun caller hcaller => ?_
    obtain rfl := Option.some.inj hcaller
    exact .single hvw
  · rename_i i hi
    have hi : s.number w = i := by rw [number, show s.index? w = some i from hi, Option.getD_some]
    split
    · rename_i hw
      have hw : w ∈ s.stack := (h.holds_iff w).1 hw
      have hlow : ∀ x, (s.lower v i).lowest x = if x = v then min (s.lowest v) i else s.lowest x :=
        lowest_lower h.sized hv i
      have hlowered := hlayered.lower h.descending hw (.single hvw)
        (hi ▸ (hlow v).trans (if_pos rfl)) fun x hx => (hlow x).trans (if_neg hx)
      refine h.of_layered (h.sized.lower i).low (hlowered.next fun _ => ?_)
      rw [hlow, if_pos rfl, hi]
      exact Nat.min_le_right ..
    · rename_i hw
      exact h.of_layered h.sized.low (hlayered.next fun hmem => absurd ((h.holds_iff w).2 hmem) hw)

theorem index?_eq_number (hv : s.Entered v) : s.index? v = some (s.number v) := by
  obtain ⟨i, hi⟩ := Option.isSome_iff_exists.1 hv
  rw [number, hi, Option.getD_some]

theorem complete_eq (hstack : s.stack = above ++ v :: below) (hv : v ∉ above) (loops : Bool) :
    s.complete v loops =
      { s with
        stack := below
        onStack := setAll false (above ++ [v]) s.onStack
        cyclic := if above.length ≠ 0 || loops then setAll true (above ++ [v]) s.cyclic else s.cyclic } := by
  have hlength : (s.stack.takeWhile (· != v)).length = above.length := by
    have habove : ∀ x ∈ above, (x != v) = true := fun x hx => by
      rw [bne_iff_ne]
      exact fun heq => hv (heq ▸ hx)
    rw [hstack, List.takeWhile_append_of_pos habove, List.takeWhile_cons]
    simp
  have htake : s.stack.take (above.length + 1) = above ++ [v] := by
    rw [hstack, List.take_length_add_append]
    rfl
  have hdrop : s.stack.drop (above.length + 1) = below := by
    rw [hstack, List.drop_length_add_append]
    rfl
  have hlt : decide ((above ++ [v]).length > 1) = decide (above.length ≠ 0) := by
    rw [decide_eq_decide, List.length_append, List.length_singleton]
    omega
  simp only [Search.complete, hlength, htake, hdrop, hlt]

/-- The latest visit is at its end, and its state reaches nothing below its layer. -/
structure Ripe (a : Automaton) (s : Search) (v : Nat) (visits : List Visit) (above below : List Nat) : Prop where
  visits_eq : s.visits = ⟨v, []⟩ :: visits
  stack_eq : s.stack = above ++ v :: below
  layer : Layer a.Joins s.number s.lowest ⟨v, []⟩ above below
  rest : Layered a.Joins s.number s.lowest visits below
  low_eq : s.lowest v = s.number v

namespace Ripe

variable {x y : Nat}

theorem mem_stack (hr : Ripe a s v visits above below) : x ∈ s.stack ↔ x ∈ v :: above ∨ x ∈ below := by
  rw [hr.stack_eq, List.mem_append, List.mem_cons, List.mem_cons]
  tauto

theorem number_lt (hr : Ripe a s v visits above below) (h : s.Sound a) (hx : x ∈ v :: above) (hy : y ∈ below) :
    s.number y < s.number x := by
  obtain ⟨-, hv, habove⟩ := List.pairwise_append.1 (hr.stack_eq ▸ h.descending)
  rcases List.mem_cons.1 hx with rfl | hx
  · exact (List.pairwise_cons.1 hv).1 y hy
  · exact habove x hx y (List.mem_cons_of_mem _ hy)

theorem not_mem_above (hr : Ripe a s v visits above below) (h : s.Sound a) : v ∉ above := fun hv => by
  obtain ⟨-, -, habove⟩ := List.pairwise_append.1 (hr.stack_eq ▸ h.descending)
  exact absurd (habove v hv v List.mem_cons_self) (Nat.lt_irrefl _)

/-- Edges lead from the layer into it or to complete components. -/
theorem closed (hr : Ripe a s v visits above below) (h : s.Sound a) (hf : s.Followed a) (hx : x ∈ v :: above)
    (hxy : a.Joins x y) : y ∈ v :: above ∨ s.Complete y := by
  have hy : s.Entered y := by
    rcases hf.entered x y (h.entered x (hr.mem_stack.2 (.inl hx))) hxy with hy | ⟨visit, hvisit, rfl, hy⟩
    · exact hy
    · -- the other visits belong to states below the layer
      rw [hr.visits_eq] at hvisit
      rcases List.mem_cons.1 hvisit with rfl | hvisit
      · cases hy
      · exact absurd (hr.number_lt h hx (hr.rest.state_mem hvisit)) (Nat.lt_irrefl _)
  by_cases hys : y ∈ s.stack
  · refine .inl ((hr.mem_stack.1 hys).resolve_right fun hbelow => ?_)
    have hle : s.lowest v ≤ s.number y := hr.layer.low_le_of_edge x hx y hbelow hxy fun _ => List.not_mem_nil
    have := hr.number_lt h List.mem_cons_self hbelow
    have := hr.low_eq
    omega
  · exact .inr ⟨hy, hys⟩

theorem reaches (hr : Ripe a s v visits above below) (hx : x ∈ v :: above) (hy : y ∈ v :: above) :
    ReflTransGen a.Joins x y := by
  have hback : ReflTransGen a.Joins x v := by
    rcases List.mem_cons.1 hx with rfl | hx
    · exact .refl
    · exact (hr.layer.mutual_of_mem x hx).2
  rcases List.mem_cons.1 hy with rfl | hy
  · exact hback
  · exact hback.trans (hr.layer.mutual_of_mem y hy).1

/-- The states of the layer lie on cycles if there are several, or if the only one has an edge to itself. -/
theorem cyclic_iff (hr : Ripe a s v visits above below) (h : s.Sound a) (hf : s.Followed a) (hx : x ∈ v :: above) :
    TransGen a.Joins x x ↔ above.length ≠ 0 ∨ a.Joins v v := by
  constructor
  · intro hcycle
    refine or_iff_not_imp_left.2 fun hnil => ?_
    obtain rfl : above = [] := List.length_eq_zero_iff.1 (not_not.1 hnil)
    obtain rfl := List.mem_singleton.1 hx
    obtain ⟨y, hxy, hyx⟩ := TransGen.head'_iff.1 hcycle
    rcases hr.closed h hf hx hxy with hy | hy
    · exact List.mem_singleton.1 hy ▸ hxy
    · -- a complete component leads to no state on the stack
      have hcomplete : s.Complete x := by
        clear hcycle hxy
        induction hyx using ReflTransGen.head_induction_on with
        | refl => exact hy
        | head hyz _ ih => exact ih (h.closed _ _ hy hyz)
      exact absurd (hr.mem_stack.2 (.inl hx)) hcomplete.2
  · have hround : ∀ {y z}, y ∈ v :: above → z ∈ v :: above → y ≠ z → TransGen a.Joins y y :=
      fun hy hz hne => ((Relation.reflTransGen_iff_eq_or_transGen.1 (hr.reaches hy hz)).resolve_left
        hne.symm).trans_left (hr.reaches hz hy)
    rintro (hlength | hloop)
    · obtain ⟨y, hy⟩ := List.exists_mem_of_length_pos (Nat.pos_of_ne_zero hlength)
      have hyv : y ≠ v := fun heq => hr.not_mem_above h (heq ▸ hy)
      by_cases hxv : x = v
      · exact hround hx (List.mem_cons_of_mem _ hy) (hxv ▸ hyv.symm)
      · exact hround hx List.mem_cons_self hxv
    · exact TransGen.trans_left (TransGen.trans_right (hr.reaches hx List.mem_cons_self) (.single hloop))
        (hr.reaches List.mem_cons_self hx)

/-- The layer becomes a complete component. -/
theorem complete (hr : Ripe a s v visits above below) (h : s.Sound a) (hf : s.Followed a) {low : Array Nat}
    (hsize : low.size = a.stateCount) (hlow : ∀ x, low.getD x 0 = s.lowest x) :
    ({ s with visits, low }.complete v ((a.successors v).contains v)).Sound a := by
  have hmem : ∀ x, x ∈ above ++ [v] ↔ x ∈ v :: above := fun x => by simp [or_comm]
  have hlt : ∀ x ∈ above ++ [v], x < a.stateCount := fun x hx =>
    h.sized.lt_of_entered (h.entered x (hr.mem_stack.2 (.inl ((hmem x).1 hx))))
  have hbelow : ∀ x ∈ below, x ∉ v :: above := fun x hx hxv =>
    absurd (hr.number_lt h hxv hx) (Nat.lt_irrefl _)
  have hstack : ∀ x ∈ below, x ∈ s.stack := fun x hx => hr.mem_stack.2 (.inr hx)
  rw [complete_eq (s := { s with visits, low }) hr.stack_eq (hr.not_mem_above h)]
  have hcomplete : ∀ x, (s.Entered x ∧ x ∉ below) ↔ x ∈ v :: above ∨ s.Complete x := fun x => by
    rw [Complete, hr.mem_stack]
    have : x ∈ v :: above → s.Entered x := fun hx => h.entered x (hr.mem_stack.2 (.inl hx))
    have := hbelow x
    tauto
  exact {
    sized := ⟨h.sized.index, hsize, (size_setAll ..).trans h.sized.onStack, by
      split
      · exact (size_setAll ..).trans h.sized.cyclic
      · exact h.sized.cyclic⟩
    lt_counter := h.lt_counter
    holds_iff := fun x => by
      refine (Bool.eq_iff_iff.1 (getD_setAll (h.sized.onStack.symm ▸ hlt) x)).trans ?_
      by_cases hx : x ∈ v :: above
      · rw [if_pos ((hmem x).2 hx)]
        exact iff_of_false Bool.false_ne_true fun hxb => hbelow x hxb hx
      · rw [if_neg (mt (hmem x).1 hx)]
        exact (h.holds_iff x).trans (hr.mem_stack.trans (or_iff_right hx))
    entered := fun x hx => h.entered x (hstack x hx)
    descending := (List.pairwise_cons.1 (List.pairwise_append.1 (hr.stack_eq ▸ h.descending)).2.1).2
    layered := hr.rest.congr (fun _ _ => rfl) fun x _ => hlow x
    closed := fun x y hx hxy => by
      refine (hcomplete y).2 ?_
      rcases (hcomplete x).1 hx with hx | hx
      · exact hr.closed h hf hx hxy
      · exact .inr (h.closed x y hx hxy)
    cyclic_iff := fun x => by
      refine Iff.trans ?_ (and_congr_left' (hcomplete x)).symm
      have hflags : (decide (above.length ≠ 0) || (a.successors v).contains v) = true ↔
          above.length ≠ 0 ∨ a.Joins v v := by
        rw [Bool.or_eq_true, decide_eq_true_eq, List.contains_iff_mem, mem_successors]
      by_cases hx : x ∈ v :: above
      · rw [hr.cyclic_iff h hf hx, ← hflags]
        split
        · rename_i hflag
          rw [getD_setAll (h.sized.cyclic.symm ▸ hlt), if_pos ((hmem x).2 hx)]
          exact iff_of_true rfl ⟨.inl hx, hflag⟩
        · rename_i hflag
          refine iff_of_false (fun hcyclic => ?_) fun hx => hflag hx.2
          exact ((h.cyclic_iff x).1 hcyclic).1.2 (hr.mem_stack.2 (.inl hx))
      · rw [or_iff_right hx, ← h.cyclic_iff x]
        split
        · rw [getD_setAll (h.sized.cyclic.symm ▸ hlt), if_neg (mt (hmem x).1 hx)]
        · rfl }

end Ripe

/-- When a visit ends, its layer is complete or joins the layer below. -/
theorem Sound.leave (h : s.Sound a) (hf : s.Followed a) (hvisits : s.visits = ⟨v, []⟩ :: visits) :
    ({ s with visits }.leave v ((a.successors v).contains v)).Sound a := by
  obtain ⟨above, below, hstack, layer, called, rest⟩ := (hvisits ▸ h.layered).exists_layer
  have hv : v ∈ s.stack := hstack ▸ List.mem_append_right _ List.mem_cons_self
  have hindex : s.index? v = some (s.number v) := index?_eq_number (h.entered v hv)
  obtain ⟨y, hy, hylow, hvy⟩ := layer.reached
  cases visits with
  | nil =>
    -- there is nothing below the first visit
    obtain rfl : below = [] := by cases rest; rfl
    have hlow : s.lowest v = s.number v := by rw [← hylow, List.mem_singleton.1 hy]
    have hr : Ripe a s v [] above [] := ⟨hvisits, hstack, layer, rest, hlow⟩
    have hleave : { s with visits := [] }.leave v ((a.successors v).contains v) =
        { s with visits := [] }.complete v ((a.successors v).contains v) :=
      if_pos (hindex.trans (congrArg some hlow.symm))
    rw [hleave]
    exact hr.complete h hf h.sized.low fun _ => rfl
  | cons caller visits =>
    obtain ⟨-, hv', -⟩ := List.pairwise_append.1 (hstack ▸ h.descending)
    obtain ⟨hlt, hdescending⟩ := List.pairwise_cons.1 hv'
    have hcaller : caller.state ∈ below := rest.state_mem List.mem_cons_self
    have hne : v ≠ caller.state := fun heq => absurd (heq ▸ hlt _ hcaller) (Nat.lt_irrefl _)
    have hlow : ∀ x, (s.lower caller.state (s.lowest v)).lowest x =
        if x = caller.state then min (s.lowest caller.state) (s.lowest v) else s.lowest x := by
      refine lowest_lower h.sized (h.sized.lt_of_entered (h.entered _ ?_)) _
      exact hstack ▸ List.mem_append_right _ (List.mem_cons_of_mem _ hcaller)
    have hsize : (s.lower caller.state (s.lowest v)).low.size = a.stateCount := (h.sized.lower _).low
    have hlowv := (hlow v).trans (if_neg hne)
    by_cases hroot : s.lowest v = s.number v
    · -- the layer is a component, and the visit below reaches lower already
      have hleave : { s with visits := caller :: visits }.leave v ((a.successors v).contains v) =
          { s with visits := caller :: visits, low := (s.lower caller.state (s.lowest v)).low }.complete v
            ((a.successors v).contains v) :=
        if_pos (hindex.trans (congrArg some (hlowv.trans hroot).symm))
      have hr : Ripe a s v (caller :: visits) above below := ⟨hvisits, hstack, layer, rest, hroot⟩
      rw [hleave]
      refine hr.complete h hf hsize fun x => (hlow x).trans ?_
      split
      · rename_i hx
        obtain ⟨_, _, rfl, layer', -, -⟩ := rest.exists_layer
        have hlower : s.lowest caller.state ≤ s.lowest v :=
          hroot ▸ Nat.le_of_lt (Nat.lt_of_le_of_lt layer'.low_le (hlt _ hcaller))
        rw [hx, Nat.min_eq_left hlower]
      · rfl
    · have hleave : { s with visits := caller :: visits }.leave v ((a.successors v).contains v) =
          { s with visits := caller :: visits, low := (s.lower caller.state (s.lowest v)).low } :=
        if_neg fun heq => hroot (hlowv.symm.trans (Option.some.inj (hindex.symm.trans heq)).symm)
      have hyb : y ∈ below := (List.mem_cons.1 hy).resolve_left fun heq => hroot (by rw [← hylow, heq])
      have hlowered := rest.lower hdescending hyb ((called caller rfl).trans hvy)
        ((hlow _).trans ((if_pos rfl).trans (by rw [hylow]))) fun x hx => (hlow x).trans (if_neg hx)
      have hmerged := Layered.merge layer rfl (called caller rfl) (hvy.trans (rest.reaches_head hyb)) hlowered
        (((hlow _).trans (if_pos rfl)).trans_le (Nat.min_le_right ..))
      rw [hleave]
      exact h.of_layered hsize (hstack ▸ hmerged)

theorem Sound.step (h : s.Sound a) (hf : s.Followed a) (ha : a.Targeted) : (s.step a).Sound a := by
  unfold Search.step
  split
  · exact h
  · rename_i hvisits
    refine h.follow ha ?_ hvisits
    exact hf.joins _ (hvisits ▸ List.mem_cons_self) _ List.mem_cons_self
  · rename_i hvisits
    exact h.leave hf hvisits

theorem follow_of_not_entered (hw : ¬ s.Entered w) (successors : List Nat) :
    s.follow v w successors = s.enter w successors := by
  rw [Entered, Option.not_isSome_iff_eq_none] at hw
  rw [Search.follow, hw]

theorem follow_of_entered (hw : s.Entered w) (successors : List Nat) :
    (s.follow v w successors).index = s.index ∧ (s.follow v w successors).visits = s.visits := by
  rw [Search.follow, index?_eq_number hw]
  dsimp only
  split <;> exact ⟨rfl, rfl⟩

theorem leave_index_visits (s : Search) (v : Nat) (loops : Bool) :
    (s.leave v loops).index = s.index ∧ (s.leave v loops).visits = s.visits := by
  have hcomplete : ∀ t : Search, t.index = s.index ∧ t.visits = s.visits →
      (if t.index? v = some (t.lowest v) then t.complete v loops else t).index = s.index ∧
        (if t.index? v = some (t.lowest v) then t.complete v loops else t).visits = s.visits := by
    intro t ht
    split <;> exact ht
  refine hcomplete _ ?_
  split <;> exact ⟨rfl, rfl⟩

theorem entered_congr {t : Search} (h : t.index = s.index) : t.Entered v ↔ s.Entered v := by
  rw [Entered, Entered, index?, index?, h]

/-- Entering a state makes good for the edge that leads to it. -/
theorem Followed.enter (h : s.Sized a.stateCount) (hw : w < a.stateCount)
    (hjoins : ∀ visit ∈ s.visits, ∀ y ∈ visit.pending, a.Joins visit.state y)
    (hentered : ∀ x y, s.Entered x → a.Joins x y →
      y = w ∨ s.Entered y ∨ ∃ visit ∈ s.visits, visit.state = x ∧ y ∈ visit.pending) :
    (s.enter w (a.successors w)).Followed a where
  joins visit hvisit y hy := by
    rcases List.mem_cons.1 hvisit with rfl | hvisit
    · exact mem_successors.1 hy
    · exact hjoins visit hvisit y hy
  entered x y hx hxy := by
    rw [entered_enter h hw] at hx ⊢
    rcases hx with rfl | hx
    · exact .inr ⟨_, List.mem_cons_self, rfl, mem_successors.2 hxy⟩
    · rcases hentered x y hx hxy with hy | hy | ⟨visit, hvisit, hy⟩
      · exact .inl (.inl hy)
      · exact .inl (.inr hy)
      · exact .inr ⟨visit, List.mem_cons_of_mem _ hvisit, hy⟩

theorem Followed.step (hf : s.Followed a) (h : s.Sound a) (ha : a.Targeted) : (s.step a).Followed a := by
  unfold Search.step
  split
  · exact hf
  · rename_i v w pending visits hvisits
    have hjoins : ∀ visit ∈ (⟨v, pending⟩ :: visits : List Visit), ∀ y ∈ visit.pending, a.Joins visit.state y := by
      intro visit hvisit y hy
      rcases List.mem_cons.1 hvisit with rfl | hvisit
      · exact hf.joins ⟨v, w :: pending⟩ (hvisits ▸ List.mem_cons_self) y (List.mem_cons_of_mem _ hy)
      · exact hf.joins visit (hvisits ▸ List.mem_cons_of_mem _ hvisit) y hy
    have hentered : ∀ x y, s.Entered x → a.Joins x y → y = w ∨ s.Entered y ∨
        ∃ visit ∈ (⟨v, pending⟩ :: visits : List Visit), visit.state = x ∧ y ∈ visit.pending := by
      intro x y hx hxy
      rcases hf.entered x y hx hxy with hy | ⟨visit, hvisit, hx, hy⟩
      · exact .inr (.inl hy)
      rw [hvisits] at hvisit
      rcases List.mem_cons.1 hvisit with rfl | hvisit
      · rcases List.mem_cons.1 hy with hy | hy
        · exact .inl hy
        · exact .inr (.inr ⟨_, List.mem_cons_self, hx, hy⟩)
      · exact .inr (.inr ⟨visit, List.mem_cons_of_mem _ hvisit, hx, hy⟩)
    have hw : w < a.stateCount := ha v w (hf.joins _ (hvisits ▸ List.mem_cons_self) w List.mem_cons_self)
    by_cases hnew : s.Entered w
    · obtain ⟨hindex, hvisits'⟩ := follow_of_entered (s := { s with visits := ⟨v, pending⟩ :: visits })
        (v := v) hnew (a.successors w)
      refine ⟨hvisits' ▸ hjoins, fun x y hx hxy => ?_⟩
      rw [entered_congr hindex] at hx ⊢
      rw [hvisits']
      rcases hentered x y hx hxy with rfl | hy
      · exact .inl hnew
      · exact hy
    · rw [follow_of_not_entered (s := { s with visits := ⟨v, pending⟩ :: visits }) hnew]
      exact Followed.enter ⟨h.sized.index, h.sized.low, h.sized.onStack, h.sized.cyclic⟩ hw hjoins hentered
  · rename_i v visits hvisits
    obtain ⟨hindex, hvisits'⟩ := leave_index_visits { s with visits } v ((a.successors v).contains v)
    constructor
    · rw [hvisits']
      exact fun visit hvisit => hf.joins visit (hvisits ▸ List.mem_cons_of_mem _ hvisit)
    · intro x y hx hxy
      rw [entered_congr hindex] at hx ⊢
      rw [hvisits']
      refine (hf.entered x y hx hxy).imp_right fun ⟨visit, hvisit, heq, hy⟩ => ?_
      rw [hvisits] at hvisit
      rcases List.mem_cons.1 hvisit with rfl | hvisit
      · cases hy
      · exact ⟨visit, hvisit, heq, hy⟩

end Steps

end Search

end Polymatch.Automaton
