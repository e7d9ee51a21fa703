import Polymatch.Proofs.Arena.Tidy

/-! # Arenas that operations reach

Resolving and freezing keep an arena tidy too, as long as every edge leads to a node of it. So every
arena that is reached from the empty one is tidy, in whatever order the operations are performed, and
whether loops are open or closed meanwhile.
-/

namespace Polymatch.Arena

open Relation (ReflTransGen)
open EdgeMap (split)

variable {g g' : Arena} {i a b : Nat} {m n : Node}

/-- Every edge that is known leads to a node of the arena. -/
def Targeted (g : Arena) : Prop := ∀ i n, g.content? i = some n → n.Below g.size

/-- What is worked out leads to nodes of the arena, which is still tidy. -/
structure Provided (g : Arena) (result : Node × Arena) : Prop where
  tidy : result.2.Tidy
  targeted : result.2.Targeted
  grows : Grows g result.2
  below : result.1.Below result.2.size

theorem Provided.after {result : Node × Arena} (h : Provided g' result) (hgrows : Grows g g') : Provided g result :=
  ⟨h.tidy, h.targeted, hgrows.trans h.grows, h.below⟩

theorem below_dead (bound : Nat) : Node.dead.Below bound := fun _ he => nomatch he

/-- The contents of an arena are those of another, as far as they are known. -/
def Discloses (g g' : Arena) : Prop := ∀ i n, g'.content? i = some n → g.content? i = some n

theorem Targeted.of_discloses (hg : g.Targeted) (hgrows : Grows g g') (h : Discloses g g') : g'.Targeted :=
  fun i n hn => (hg i n (h i n hn)).mono hgrows.size_le

theorem discloses_of_slots (h : g'.slots = g.slots) : Discloses g g' := fun i n hn => by
  rwa [content?, h] at hn

theorem discloses_derive (g : Arena) (r : Recipe) : Discloses g (g.derive r).2 := by
  rcases derive_cases g r with ⟨i, -, -, h⟩ | ⟨-, h⟩
  · rw [h]
    exact fun _ _ => id
  · rw [h]
    intro i n hn
    rcases push_cases g _ (lt_size_of_content? (Option.ne_none_iff_exists'.2 ⟨n, hn⟩)) with ⟨-, -, hc⟩ | ⟨-, -, hc⟩
    · exact hc.symm.trans hn
    · cases hc.symm.trans hn

theorem discloses_union (g : Arena) (a b : Nat) : Discloses g (g.union a b).2 := by
  simp only [union, unionOf]
  repeat' split
  all_goals first | exact fun _ _ => id | exact discloses_derive g _

section Nodes

theorem next_lt_of_link {e f : Edge} {bound : Nat} (h : f.link = e.link) (hf : f.next < bound) : e.next < bound :=
  (congrArg Link.next h).symm.trans_lt hf

theorem below_split_left (hn : n.Below i) : ∀ e ∈ (split n.edges m.edges).leftOnly, e.next < i := fun e he => by
  obtain ⟨f, hf, hlink⟩ := EdgeMap.exists_of_mem_leftOnly he
  exact next_lt_of_link hlink.symm (hn f hf)

theorem below_split_right (hm : m.Below i) : ∀ e ∈ (split n.edges m.edges).rightOnly, e.next < i := fun e he => by
  obtain ⟨f, hf, hlink⟩ := EdgeMap.exists_of_mem_rightOnly he
  exact next_lt_of_link hlink.symm (hm f hf)

theorem below_ofDisjoint {edges : List Edge} {accept : IdSet} {exit : Marks} {bound : Nat}
    (h : ∀ e ∈ edges, e.next < bound) : Node.Below ⟨.ofDisjoint edges, accept, exit⟩ bound := fun e he => by
  obtain ⟨f, hf, hlink⟩ := EdgeMap.exists_of_mem_ofDisjoint he
  exact next_lt_of_link hlink (h f hf)

/-- The edges of two nodes with edges on their shared groups. -/
theorem below_join (hm : m.Below i) (hn : n.Below i) {edges : List Edge} (he : ∀ e ∈ edges, e.next < i)
    (accept : IdSet) (exit : Marks) : Node.Below
      ⟨.ofDisjoint ((split m.edges n.edges).leftOnly ++ (split m.edges n.edges).rightOnly ++ edges), accept, exit⟩
      i := by
  refine below_ofDisjoint fun e hmem => ?_
  rcases List.mem_append.1 hmem with hmem | hmem
  · exact (List.mem_append.1 hmem).elim (below_split_left hm e) (below_split_right hn e)
  · exact he e hmem

theorem below_overlay {marks : Marks} (hn : n.Below i) : (n.overlay marks).Below i := by
  refine below_ofDisjoint fun e he => ?_
  obtain ⟨f, hf, rfl⟩ := List.mem_map.1 he
  exact hn f hf

theorem tidy_unionShared (hg : g.Tidy) (ht : g.Targeted) {s : SharedGroup} (hl : s.left.next < g.size)
    (hr : s.right.next < g.size) : (g.unionShared s).2.Tidy ∧ (g.unionShared s).2.Targeted ∧
      Grows g (g.unionShared s).2 ∧ (g.unionShared s).1.next < (g.unionShared s).2.size := by
  have hslots := slots_noteShared g s
  have hnote := grows_of_slots hslots
  have hunion : Kept (g.noteShared s) ((g.noteShared s).union s.left.next s.right.next) :=
    kept_union (hg.of_slots hslots) (Nat.lt_of_lt_of_le hl hnote.size_le) (Nat.lt_of_lt_of_le hr hnote.size_le)
  have htargeted := (ht.of_discloses hnote (discloses_of_slots hslots)).of_discloses
    hunion.grows.toGrows (discloses_union _ _ _)
  exact ⟨hunion.tidy, htargeted, hnote.trans hunion.grows.toGrows, hunion.lt⟩

theorem tidy_unionSharedAll (hg : g.Tidy) (ht : g.Targeted) {ss : List SharedGroup}
    (hs : ∀ s ∈ ss, s.left.next < g.size ∧ s.right.next < g.size) : (g.unionSharedAll ss).2.Tidy ∧
      (g.unionSharedAll ss).2.Targeted ∧ Grows g (g.unionSharedAll ss).2 ∧
        ∀ e ∈ (g.unionSharedAll ss).1, e.next < (g.unionSharedAll ss).2.size := by
  induction ss generalizing g with
  | nil => exact ⟨hg, ht, .refl g, fun _ he => nomatch he⟩
  | cons s ss ih =>
    obtain ⟨hs, hss⟩ := List.forall_mem_cons.1 hs
    obtain ⟨hg', ht', hgrows, hlt⟩ := tidy_unionShared hg ht hs.1 hs.2
    obtain ⟨hg'', ht'', hgrows', hall⟩ := ih hg' ht' fun s hs =>
      ⟨Nat.lt_of_lt_of_le (hss s hs).1 hgrows.size_le, Nat.lt_of_lt_of_le (hss s hs).2 hgrows.size_le⟩
    exact ⟨hg'', ht'', hgrows.trans hgrows',
      List.forall_mem_cons.2 ⟨Nat.lt_of_lt_of_le hlt hgrows'.size_le, hall⟩⟩

theorem Provided.noteExits (h : Provided g (n, g')) (a b : Node) : Provided g (n, g'.noteExits a b) := by
  have hslots := slots_noteExits g' a b
  have hgrows := grows_of_slots hslots
  exact ⟨h.tidy.of_slots hslots, h.targeted.of_discloses hgrows (discloses_of_slots hslots), h.grows.trans hgrows,
    h.below.mono hgrows.size_le⟩

theorem provided_unionNodes (hg : g.Tidy) (ht : g.Targeted) (hm : m.Below g.size) (hn : n.Below g.size) :
    Provided g (g.unionNodes m n) := by
  have hshared : ∀ s ∈ (split m.edges n.edges).both, s.left.next < g.size ∧ s.right.next < g.size := fun s hs =>
    have hsides := EdgeMap.sides_of_mem_both hs
    ⟨hm _ hsides.1, hn _ hsides.2⟩
  obtain ⟨hg', ht', hgrows, hedges⟩ := tidy_unionSharedAll hg ht hshared
  exact Provided.noteExits ⟨hg', ht', hgrows,
    below_join (hm.mono hgrows.size_le) (hn.mono hgrows.size_le) hedges _ _⟩ m n

theorem provided_preferNodes (hg : g.Tidy) (ht : g.Targeted) (hm : m.Below g.size) (hn : n.Below g.size) :
    Provided g (g.preferNodes m n) := by
  refine Provided.noteExits ⟨hg, ht, .refl g, below_join hm hn (fun e he => ?_) _ _⟩ m n
  obtain ⟨s, hs, rfl⟩ := List.mem_map.1 he
  exact hm s.left (EdgeMap.sides_of_mem_both hs).1

theorem Provided.setNode {k : Nat} (h : Provided g (n, g')) (hk : g'.recipe k ≠ .built) :
    Provided g (n, g'.setNode k n) := by
  have hgrows := grows_setNode g' k n hk
  refine ⟨h.tidy.setNode hk n, fun i x hx => ?_, h.grows.trans hgrows, h.below.mono hgrows.size_le⟩
  refine Node.Below.mono ?_ hgrows.size_le
  by_cases hik : i = k
  · rw [hik, content?_setNode_self _ _ _ (lt_size_of_recipe hk)] at hx
    exact Option.some.inj hx ▸ h.below
  · rw [content?_setNode_of_ne _ _ _ hik] at hx
    exact h.targeted i x hx

end Nodes

section Resolve

variable {fuel : Nat} {busy : List Nat} {visit : Nat → Arena → Node × Arena}

/-- The contents of nodes of the arena are provided. -/
def Provides (visit : Nat → Arena → Node × Arena) : Prop :=
  ∀ (i : Nat) (g : Arena), g.Tidy → g.Targeted → i < g.size → Provided g (visit i g)

theorem provided_resolveUnion (hvisit : Provides visit) (hg : g.Tidy) (ht : g.Targeted) {rest : List Nat}
    (hrest : ∀ i ∈ rest, i < g.size) (hn : n.Below g.size) : Provided g (resolveUnion visit rest n g) := by
  induction rest generalizing n g with
  | nil => exact ⟨hg, ht, .refl g, hn⟩
  | cons i rest ih =>
    have hone := hvisit i g hg ht (hrest i List.mem_cons_self)
    have hunion := provided_unionNodes hone.tidy hone.targeted (hn.mono hone.grows.size_le) hone.below
    have hgrows := hone.grows.trans hunion.grows
    have hothers := ih hunion.tidy hunion.targeted (fun j hj =>
      Nat.lt_of_lt_of_le (hrest j (List.mem_cons_of_mem _ hj)) hgrows.size_le) hunion.below
    exact hothers.after hgrows

theorem provided_resolveRecipe (hvisit : Provides visit) (hg : g.Tidy) (ht : g.Targeted) (i : Nat) :
    Provided g (resolveRecipe visit (g.recipe i) g) := by
  have hop : ∀ j, g.Operand i j → j < g.size := hg.operand_lt i
  rw [resolveRecipe.eq_def]
  cases hr : g.recipe i with
  | built => exact ⟨hg, ht, .refl g, below_dead _⟩
  | marker target? => exact ⟨hg, ht, .refl g, below_dead _⟩
  | union members =>
    refine provided_resolveUnion hvisit hg ht (fun m hm => hop m ?_) (below_dead _)
    simpa [Operand, hr, SortedSet.mem_def] using hm
  | annotate inner marks =>
    have hinner := hvisit inner g hg ht (hop inner (operand_inner hr))
    exact ⟨hinner.tidy, hinner.targeted, hinner.grows, below_overlay hinner.below⟩
  | prefer winner loser =>
    have hw := hvisit winner g hg ht (hop winner (operand_winner hr))
    have hl := hvisit loser _ hw.tidy hw.targeted
      (Nat.lt_of_lt_of_le (hop loser (operand_loser hr)) hw.grows.size_le)
    have hboth := provided_preferNodes hl.tidy hl.targeted (hw.below.mono hl.grows.size_le) hl.below
    exact hboth.after (hw.grows.trans hl.grows)

theorem provides_resolveWithin (fuel : Nat) (busy : List Nat) : Provides (resolveWithin fuel busy) := by
  induction fuel generalizing busy with
  | zero => exact fun i g hg ht _ => ⟨hg, ht, .refl g, below_dead _⟩
  | succ fuel ih =>
    intro i g hg ht hi
    rw [resolveWithin]
    have hc := hg.canonical_lt hi
    generalize g.canonical i = c at hc
    dsimp only
    split
    · rename_i n hn
      exact ⟨hg, ht, .refl g, ht c n hn⟩
    · rename_i hnone
      have hbuilt : g.recipe c ≠ .built := fun hr => hg.built c hc hr hnone
      split
      · exact ⟨hg, ht, .refl g, below_dead _⟩
      · have hone := provided_resolveRecipe (ih (c :: busy)) hg ht c
        exact hone.setNode ((hone.grows.recipe_eq c hc).trans_ne hbuilt)

theorem provided_resolve (hg : g.Tidy) (ht : g.Targeted) (hi : i < g.size) : Provided g (g.resolve i) :=
  provides_resolveWithin _ _ i g hg ht hi

theorem mem_foldl_discover {order : Array Nat} {edges : List Edge} {bound : Nat} (ho : ∀ i ∈ order, i < bound)
    (he : ∀ e ∈ edges, g.canonical e.next < bound) : ∀ i ∈ edges.foldl g.discover order, i < bound := by
  induction edges generalizing order with
  | nil => exact ho
  | cons e edges ih =>
    refine ih (fun i hi => ?_) fun f hf => he f (List.mem_cons_of_mem _ hf)
    rw [discover] at hi
    split at hi
    · exact ho i hi
    · rcases Array.mem_push.1 hi with hi | rfl
      · exact ho i hi
      · exact he e List.mem_cons_self

theorem tidy_freezeWithin {fuel : Nat} {order : Array Nat} {nodes : Array Node} (hg : g.Tidy) (ht : g.Targeted)
    (ho : ∀ i ∈ order, i < g.size) :
    (freezeWithin fuel g order nodes).2.Tidy ∧ Grows g (freezeWithin fuel g order nodes).2 := by
  induction fuel generalizing g order nodes with
  | zero => exact ⟨hg, .refl g⟩
  | succ fuel ih =>
    rw [freezeWithin]
    split
    · exact ⟨hg, .refl g⟩
    · rename_i i hi
      have hone := provided_resolve hg ht (ho i (Array.mem_of_getElem? hi))
      have horder := @mem_foldl_discover (g.resolve i).2 order (g.resolve i).1.edges.edges _
        (fun j hj => Nat.lt_of_lt_of_le (ho j hj) hone.grows.size_le)
        fun e he => hone.tidy.canonical_lt (hone.below e he)
      obtain ⟨htidy, hgrows⟩ := ih hone.tidy hone.targeted horder
      exact ⟨htidy, hone.grows.trans hgrows⟩

theorem tidy_freeze (hg : g.Tidy) (ht : g.Targeted) (hi : i < g.size) :
    (g.freeze i).2.Tidy ∧ Grows g (g.freeze i).2 := by
  refine tidy_freezeWithin hg ht fun j hj => ?_
  obtain rfl := Array.mem_singleton.1 hj
  exact hg.canonical_lt hi

end Resolve

/-- One operation on an arena. Operands are nodes of the arena; what is resolved or frozen must not have an
edge that leads out of it. -/
inductive Operation (g : Arena) : Arena → Prop
  | add (n : Node) : Operation g (g.add n).2
  | edge (σ : Alphabet) (ranges : List Interval) (next : Nat) (marks : Marks) :
    Operation g (g.edge σ ranges next marks).2
  | marker : Operation g g.marker.2
  | union {a b : Nat} : a < g.size → b < g.size → Operation g (g.union a b).2
  | annotate {inner : Nat} (marks : Marks) : inner < g.size → Operation g (g.annotate inner marks).2
  | prefer {winner loser : Nat} : winner < g.size → loser < g.size → Operation g (g.prefer winner loser).2
  | subtract {a b : Nat} : a < g.size → b < g.size → Operation g (g.subtract a b).2
  | setEntry {m entry : Nat} : g.recipe m = .marker none → entry < g.size → Operation g (g.setEntry m entry)
  | closeLoop {m body tail : Nat} (policy : LoopPolicy) : g.recipe m = .marker none → body < g.size →
    tail < g.size → Operation g (g.closeLoop m body tail policy).2
  | resolve {i : Nat} : g.Targeted → i < g.size → Operation g (g.resolve i).2
  | freeze {i : Nat} : g.Targeted → i < g.size → Operation g (g.freeze i).2

/-- Some operations, one after the other. -/
def Operations : Arena → Arena → Prop := ReflTransGen Operation

theorem Operation.tidy (h : Operation g g') (hg : g.Tidy) : g'.Tidy ∧ Settles g g' := by
  have hkept : ∀ {result : Nat × Arena}, Kept g result → result.2.Tidy ∧ Settles g result.2 := fun hk =>
    ⟨hk.tidy, hk.grows.settles⟩
  cases h with
  | add n => exact ⟨hg.add n, (grows_push ..).settles⟩
  | edge σ ranges next marks => exact hkept (kept_edge hg ..)
  | marker => exact ⟨hg.marker, (grows_push ..).settles⟩
  | union ha hb => exact hkept (kept_union hg ha hb)
  | annotate marks hi => exact hkept (kept_annotate hg hi)
  | prefer hw hl => exact hkept (kept_prefer hg hw hl)
  | subtract ha hb => exact hkept (kept_subtract hg ha _)
  | setEntry hm hentry => exact ⟨hg.setEntry hm hentry, settles_setEntry _ _ _ hm⟩
  | closeLoop policy hm hbody htail =>
    have hclose := settled_closeLoop hg hm hbody htail policy
    exact ⟨hclose.tidy, hclose.continues.toSettles⟩
  | resolve ht hi =>
    have hone := provided_resolve hg ht hi
    exact ⟨hone.tidy, hone.grows.settles⟩
  | freeze ht hi =>
    obtain ⟨htidy, hgrows⟩ := tidy_freeze hg ht hi
    exact ⟨htidy, hgrows.settles⟩

theorem Operations.tidy (h : Operations g g') (hg : g.Tidy) : g'.Tidy ∧ Settles g g' := by
  induction h with
  | refl => exact ⟨hg, .refl g⟩
  | tail _ hop ih =>
    obtain ⟨htidy, hsettles⟩ := hop.tidy ih.1
    exact ⟨htidy, ih.2.trans hsettles⟩

end Polymatch.Arena
