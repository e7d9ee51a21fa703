import Mathlib.Logic.Relation
import Mathlib.Tactic.Tauto
import Polymatch.Automaton.Cycle

/-! # The layers of a stack

A search for components keeps the states whose component is not complete on a stack. There is a layer
for every visit under way: its state is at the bottom, and what lies above it reaches it and is
reached from it.
-/

namespace Polymatch.Automaton

open Relation (ReflTransGen)

/-- A layer of the stack: the state of a visit, and what lies above and below. -/
structure Layer (R : Nat → Nat → Prop) (number low : Nat → Nat) (visit : Visit) (above below : List Nat) :
    Prop where
  mutual_of_mem : ∀ x ∈ above, ReflTransGen R visit.state x ∧ ReflTransGen R x visit.state
  low_le : low visit.state ≤ number visit.state
  reached : ∃ y ∈ visit.state :: below, number y = low visit.state ∧ ReflTransGen R visit.state y
  low_le_of_edge : ∀ x ∈ visit.state :: above, ∀ y ∈ below, R x y → (x = visit.state → y ∉ visit.pending) →
    low visit.state ≤ number y

/-- The stack has a layer for every visit under way, and every visit was called from the one below. -/
inductive Layered (R : Nat → Nat → Prop) (number low : Nat → Nat) : List Visit → List Nat → Prop
  | nil : Layered R number low [] []
  | cons {visit : Visit} {visits : List Visit} {above below : List Nat}
      (layer : Layer R number low visit above below)
      (called : ∀ caller ∈ visits.head?, ReflTransGen R caller.state visit.state)
      (rest : Layered R number low visits below) :
      Layered R number low (visit :: visits) (above ++ visit.state :: below)

section Layers

variable {R : Nat → Nat → Prop} {number number' low low' : Nat → Nat} {visit : Visit} {visits : List Visit}
  {stack above below : List Nat} {v : Nat}

/-- The layer of the latest visit is at the top. -/
theorem Layered.exists_layer (h : Layered R number low (visit :: visits) stack) :
    ∃ above below, stack = above ++ visit.state :: below ∧ Layer R number low visit above below ∧
      (∀ caller ∈ visits.head?, ReflTransGen R caller.state visit.state) ∧ Layered R number low visits below := by
  cases h with
  | cons layer called rest => exact ⟨_, _, rfl, layer, called, rest⟩

theorem Layer.congr (h : Layer R number low visit above below)
    (hnumber : ∀ x ∈ visit.state :: below, number' x = number x) (hlow : low' visit.state = low visit.state) :
    Layer R number' low' visit above below where
  mutual_of_mem := h.mutual_of_mem
  low_le := by
    rw [hlow, hnumber _ List.mem_cons_self]
    exact h.low_le
  reached := by
    obtain ⟨y, hy, heq, hreach⟩ := h.reached
    exact ⟨y, hy, by rw [hnumber y hy, heq, hlow], hreach⟩
  low_le_of_edge x hx y hy hxy hpending := by
    rw [hlow, hnumber y (List.mem_cons_of_mem _ hy)]
    exact h.low_le_of_edge x hx y hy hxy hpending

namespace Layered

theorem state_mem (h : Layered R number low visits stack) (hv : visit ∈ visits) : visit.state ∈ stack := by
  induction h with
  | nil => cases hv
  | cons layer called rest ih =>
    rcases List.mem_cons.1 hv with rfl | hv
    · exact List.mem_append_right _ List.mem_cons_self
    · exact List.mem_append_right _ (List.mem_cons_of_mem _ (ih hv))

/-- All of the stack reaches the state of the latest visit. -/
theorem reaches_head (h : Layered R number low (visit :: visits) stack) (hv : v ∈ stack) :
    ReflTransGen R v visit.state := by
  generalize hvisits : visit :: visits = all at h
  induction h generalizing visit visits with
  | nil => cases hvisits
  | @cons top others above below layer called rest ih =>
    obtain ⟨rfl, rfl⟩ := List.cons.inj hvisits
    rcases List.mem_append.1 hv with hv | hv
    · exact (layer.mutual_of_mem v hv).2
    rcases List.mem_cons.1 hv with rfl | hv
    · exact .refl
    cases visits with
    | nil =>
      cases rest
      cases hv
    | cons caller others => exact (ih hv rfl).trans (called caller rfl)

/-- Only the numbers of what is on the stack matter, and how low it reaches. -/
theorem congr (h : Layered R number low visits stack) (hnumber : ∀ x ∈ stack, number' x = number x)
    (hlow : ∀ x ∈ stack, low' x = low x) : Layered R number' low' visits stack := by
  induction h with
  | nil => exact .nil
  | @cons visit visits above below layer called rest ih =>
    have hbelow : ∀ x ∈ visit.state :: below, x ∈ above ++ visit.state :: below :=
      fun x => List.mem_append_right _
    have hrest : ∀ x ∈ below, x ∈ above ++ visit.state :: below :=
      fun x hx => hbelow x (List.mem_cons_of_mem _ hx)
    refine .cons (layer.congr (fun x hx => hnumber x (hbelow x hx)) ?_) called ?_
    · exact hlow _ (hbelow _ List.mem_cons_self)
    · exact ih (fun x hx => hnumber x (hrest x hx)) fun x hx => hlow x (hrest x hx)

/-- A state that was not on the stack gets a layer of its own. -/
theorem enter (h : Layered R number low visits stack) {successors : List Nat}
    (hcalled : ∀ caller ∈ visits.head?, ReflTransGen R caller.state v) (hlow : low v = number v)
    (hsuccessors : ∀ y, R v y → y ∈ successors) : Layered R number low (⟨v, successors⟩ :: visits) (v :: stack) := by
  have layer : Layer R number low ⟨v, successors⟩ [] stack :=
    { mutual_of_mem := fun x hx => by cases hx
      low_le := Nat.le_of_eq hlow
      reached := ⟨v, List.mem_cons_self, hlow.symm, .refl⟩
      low_le_of_edge := fun x hx y _ hxy hpending => by
        obtain rfl := List.mem_singleton.1 hx
        exact absurd (hsuccessors y hxy) (hpending rfl) }
  exact .cons layer hcalled h

/-- An edge is followed once the visit reaches as low as where it leads. -/
theorem next {pending : List Nat} {w : Nat} (h : Layered R number low (⟨v, w :: pending⟩ :: visits) stack)
    (hw : w ∈ stack → low v ≤ number w) : Layered R number low (⟨v, pending⟩ :: visits) stack := by
  cases h with
  | @cons _ _ above below layer called rest =>
    have layer' : Layer R number low ⟨v, pending⟩ above below :=
      { mutual_of_mem := layer.mutual_of_mem
        low_le := layer.low_le
        reached := layer.reached
        low_le_of_edge := fun x hx y hy hxy hpending => by
          by_cases hyw : y = w
          · exact hyw ▸ hw (hyw ▸ List.mem_append_right _ (List.mem_cons_of_mem _ hy))
          · refine layer.low_le_of_edge x hx y hy hxy fun hxv hmem => ?_
            exact (List.mem_cons.1 hmem).elim hyw (hpending hxv) }
    exact .cons layer' called rest

/-- The latest visit reaches as low as anything on the stack that its state reaches. -/
theorem lower (h : Layered R number low (visit :: visits) stack)
    (hdescending : stack.Pairwise fun v w => number w < number v) (hv : v ∈ stack)
    (hreach : ReflTransGen R visit.state v) (hlow : low' visit.state = min (low visit.state) (number v))
    (hother : ∀ x, x ≠ visit.state → low' x = low x) : Layered R number low' (visit :: visits) stack := by
  cases h with
  | @cons _ _ above below layer called rest =>
    obtain ⟨-, hbelow, habove⟩ := List.pairwise_append.1 hdescending
    have hlt := (List.pairwise_cons.1 hbelow).1
    have hle : low' visit.state ≤ low visit.state := hlow ▸ Nat.min_le_left ..
    have layer' : Layer R number low' visit above below :=
      { mutual_of_mem := layer.mutual_of_mem
        low_le := Nat.le_trans hle layer.low_le
        reached := by
          rcases Nat.le_total (low visit.state) (number v) with hmin | hmin
          · obtain ⟨y, hy, heq, hy'⟩ := layer.reached
            exact ⟨y, hy, by rw [heq, hlow, Nat.min_eq_left hmin], hy'⟩
          · -- what lies above the state of the visit has a greater number
            refine ⟨v, ?_, by rw [hlow, Nat.min_eq_right hmin], hreach⟩
            rcases List.mem_append.1 hv with hv | hv
            · have := habove v hv _ List.mem_cons_self
              have := layer.low_le
              omega
            · exact hv
        low_le_of_edge := fun x hx y hy hxy hpending =>
          Nat.le_trans hle (layer.low_le_of_edge x hx y hy hxy hpending) }
    refine .cons layer' called (rest.congr (fun _ _ => rfl) fun x hx => hother x ?_)
    rintro rfl
    exact absurd (hlt _ hx) (Nat.lt_irrefl _)

/-- The layer of a visit that ends joins the layer below, if its state reaches that. -/
theorem merge {caller : Visit} (layer : Layer R number low visit above below)
    (hpending : visit.pending = []) (hcalled : ReflTransGen R caller.state visit.state)
    (hback : ReflTransGen R visit.state caller.state) (rest : Layered R number low' (caller :: visits) below)
    (hlow : low' caller.state ≤ low visit.state) :
    Layered R number low' (caller :: visits) (above ++ visit.state :: below) := by
  cases rest with
  | @cons _ _ above' below' layer' called rest =>
    have joined : Layer R number low' caller (above ++ visit.state :: above') below' :=
      { mutual_of_mem := fun x hx => by
          rcases List.mem_append.1 hx with hx | hx
          · have hx := layer.mutual_of_mem x hx
            exact ⟨hcalled.trans hx.1, hx.2.trans hback⟩
          rcases List.mem_cons.1 hx with rfl | hx
          · exact ⟨hcalled, hback⟩
          · exact layer'.mutual_of_mem x hx
        low_le := layer'.low_le
        reached := layer'.reached
        low_le_of_edge := fun x hx y hy hxy hx' => by
          have hx : x ∈ visit.state :: above ∨ x ∈ caller.state :: above' := by
            simp only [List.mem_cons, List.mem_append] at hx ⊢
            tauto
          rcases hx with hx | hx
          · refine Nat.le_trans hlow (layer.low_le_of_edge x hx y ?_ hxy fun _ => by simp [hpending])
            exact List.mem_append_right _ (List.mem_cons_of_mem _ hy)
          · exact layer'.low_le_of_edge x hx y hy hxy hx' }
    have h := Layered.cons joined called rest
    rwa [List.append_assoc] at h

end Layered

end Layers

end Polymatch.Automaton
