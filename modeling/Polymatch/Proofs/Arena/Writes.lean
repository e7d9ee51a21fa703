import Polymatch.Proofs.Arena.Resolution

/-! # Arenas on the way

Links between nodes are added and never taken away: a slot keeps its recipe, except
that an open marker may be closed. An arena that is free of cycles in the end has
therefore been free of cycles all the way, and every arena on the way is well-formed.
-/

namespace Polymatch.Arena

open Relation (TransGen ReflTransGen)

variable {g g' : Arena} {i j : Nat}

theorem Write.settles (h : Write g g') : Settles g g' := by
  cases h with
  | push hfits => exact (grows_push ..).settles
  | close hm hentry => exact settles_setEntry _ _ _ hm
  | note hr hn => exact (grows_setNode _ _ _ hr).settles
  | aside hs => exact (grows_of_slots hs).settles

theorem Writes.settles (h : Writes g g') : Settles g g' := by
  induction h with
  | refl => exact .refl g
  | tail _ hw ih => exact ih.trans hw.settles

theorem Settles.operand (h : Settles g g') (hop : g.Operand i j) : g'.Operand i j := by
  have hne : g.recipe i ≠ .marker none := fun hr => by simp [Operand, hr] at hop
  rw [Operand, h.recipe_eq i hop.lt_size hne]
  exact hop

/-- If there is no cycle in the end, there has been none before. -/
theorem Settles.acyclic (h : Settles g g') (hacyclic : ∀ i, ¬ TransGen g'.Operand i i) (i : Nat) :
    ¬ TransGen g.Operand i i := fun hi =>
  hacyclic i (hi.lift id fun _ _ => h.operand)

theorem Write.wellFormed (h : Write g g') (hg : g.WellFormed)
    (hacyclic : ∀ i, ¬ TransGen g'.Operand i i) : g'.WellFormed := by
  have hsettles := h.settles
  cases h with
  | push hfits => exact hg.push hfits
  | @close m entry hm hentry =>
    refine hg.setEntry hm hentry fun hreach => hacyclic m ?_
    refine .head' ?_ (hreach.lift id fun _ _ => hsettles.operand)
    rw [Operand, recipe_setEntry_self _ _ _ (lt_size_of_recipe (by simp [hm]))]
    rfl
  | note hr hn => exact hg.setNode hr hn
  | aside hs => exact hg.of_slots hs

/-- Every arena that is free of cycles is well-formed if it has been written slot by slot. -/
theorem Writes.wellFormed (h : Writes new g) (hacyclic : ∀ i, ¬ TransGen g.Operand i i) : g.WellFormed := by
  induction h with
  | refl => exact wellFormed_new
  | tail _ hw ih => exact hw.wellFormed (ih (hw.settles.acyclic hacyclic)) hacyclic

end Polymatch.Arena
