import Polymatch.Arena.Resolve
import Polymatch.Proofs.Arena.Resolution

/-! # Working out contents

The content of a node is worked out from those of the nodes that it derives from.
They are derived from fewer nodes, which bounds the depth of the work.
-/

namespace Polymatch.Arena

open Relation (TransGen ReflTransGen)
open EdgeMap (Joined split)

variable {g₀ g g' h : Arena} {S T : Nat → Prop} {i j k bound : Nat} {n a b : Node} {added : Marks}

theorem Shares.mono {ambiguous ambiguous' : Bool} {p q k : Link} (hs : Shares h ambiguous p q k)
    (ha : ambiguous = true → ambiguous' = true) : Shares h ambiguous' p q k :=
  ⟨hs.covers, fun hf => hs.marks (Bool.eq_false_iff.2 fun ht => by simp [ha ht] at hf)⟩

/-- Both edges of a shared group lead below a bound. -/
def SharedWithin (s : SharedGroup) (bound : Nat) : Prop := s.left.Within bound ∧ s.right.Within bound

theorem sharedWithin_of_mem (ha : a.Within bound) (hb : b.Within bound) :
    ∀ s ∈ (split a.edges b.edges).both, SharedWithin s bound := by
  intro s hs
  obtain ⟨hleft, hright⟩ := EdgeMap.sides_of_mem_both hs
  exact ⟨ha.edge _ hleft, hb.edge _ hright⟩

/-- The arena in which an ambiguity of the marks of a shared group has been noted. -/
def noteShared (g : Arena) (s : SharedGroup) : Arena :=
  if s.left.marks ≠ s.right.marks then { g with ambiguous := true } else g

theorem slots_noteShared (g : Arena) (s : SharedGroup) : (g.noteShared s).slots = g.slots := by
  rw [noteShared]
  split <;> rfl

theorem slots_noteExits (g : Arena) (a b : Node) : (g.noteExits a b).slots = g.slots := by
  rw [noteExits]
  split <;> rfl

theorem Grounded.noteShared (hb : Grounded g₀ g) (s : SharedGroup) : Resolves g₀ g (g.noteShared s) := by
  rw [Arena.noteShared]
  split
  · exact hb.of_slots rfl fun _ => rfl
  · exact .refl hb

theorem Grounded.noteExits (hb : Grounded g₀ g) (a b : Node) : Resolves g₀ g (g.noteExits a b) := by
  rw [Arena.noteExits]
  split
  · exact hb.of_slots rfl fun _ => rfl
  · exact .refl hb

theorem exit_eq_of_noteExits (h : (g.noteExits a b).ambiguous = false) (ha : a.isAccepting = true)
    (hb : b.isAccepting = true) : a.exit = b.exit := by
  by_contra hne
  simp [noteExits, ha, hb, hne] at h

/-- What is worked out has its place in the arena. -/
structure Keeps (g : Arena) (result : Node × Arena) : Prop where
  wellFormed : result.2.WellFormed
  grows : Grows g result.2
  within : result.1.Within result.2.size

theorem keeps_unionShared (hg : g.WellFormed) {s : SharedGroup} (hs : SharedWithin s g.size) :
    (g.unionShared s).2.WellFormed ∧ Grows g (g.unionShared s).2 ∧
      (g.unionShared s).1.Within (g.unionShared s).2.size := by
  have hnote := grows_of_slots (slots_noteShared g s)
  have hunion : Grown (g.noteShared s) ((g.noteShared s).union s.left.next s.right.next) :=
    grown_union (hg.of_slots (slots_noteShared g s)) (Nat.lt_of_lt_of_le hs.1.next_lt hnote.size_le)
      (Nat.lt_of_lt_of_le hs.2.next_lt hnote.size_le)
  refine ⟨hunion.wellFormed, hnote.trans hunion.grows.toGrows, hunion.lt, ?_⟩
  simp only [unionShared, hs.1.routes, hs.2.routes, SortedSet.union_self]

theorem keeps_unionSharedAll (hg : g.WellFormed) {ss : List SharedGroup}
    (hs : ∀ s ∈ ss, SharedWithin s g.size) :
    (g.unionSharedAll ss).2.WellFormed ∧ Grows g (g.unionSharedAll ss).2 ∧
      ∀ e ∈ (g.unionSharedAll ss).1, e.Within (g.unionSharedAll ss).2.size := by
  induction ss generalizing g with
  | nil => exact ⟨hg, .refl g, fun e he => (nomatch he)⟩
  | cons s ss ih =>
    obtain ⟨hs, hss⟩ := List.forall_mem_cons.1 hs
    obtain ⟨hg', hgrow, hedge⟩ := keeps_unionShared hg hs
    obtain ⟨hg'', hgrow', hrest⟩ := ih hg' fun s hs =>
      ⟨(hss s hs).1.mono hgrow.size_le, (hss s hs).2.mono hgrow.size_le⟩
    exact ⟨hg'', hgrow.trans hgrow', List.forall_mem_cons.2 ⟨hedge.mono hgrow'.size_le, hrest⟩⟩

/-- Some resolving has made the edge of a shared group. -/
structure SharedEdge (g₀ g : Arena) (s : SharedGroup) (result : Edge × Arena) : Prop where
  resolves : Resolves g₀ g result.2
  within : result.1.Within result.2.size
  group : result.1.group = s.group
  shares : ∀ h : Arena, Settles result.2 h →
    Shares h result.2.ambiguous s.left.link s.right.link result.1.link

theorem sharedEdge_unionShared (hb : Grounded g₀ g) (h₀ : g₀.WellFormed) {s : SharedGroup}
    (hs : SharedWithin s g.size) : SharedEdge g₀ g s (g.unionShared s) := by
  have hnote := hb.noteShared s
  have hle := hnote.grows.size_le
  have hl := Nat.lt_of_lt_of_le hs.1.next_lt hle
  have hr := Nat.lt_of_lt_of_le hs.2.next_lt hle
  have hresolves := hnote.grounded.union h₀ hl hr
  have hmarks : (g.noteShared s).ambiguous = false → s.left.marks = s.right.marks := by
    intro ha
    by_contra hne
    simp [noteShared, hne] at ha
  refine ⟨hnote.trans hresolves, (keeps_unionShared hb.wellFormed hs).2.2, rfl,
    fun h hsettles => ⟨?_, fun ha => ?_⟩⟩
  · exact covers_union hnote.grounded.wellFormed hl hr hsettles
  · have hnot : (g.noteShared s).ambiguous = false :=
      Bool.eq_false_iff.2 fun ht => Bool.false_ne_true (ha.symm.trans (hresolves.ambiguous ht))
    have heq := hmarks hnot
    simp [unionShared, Edge.link, heq]

/-- Some resolving has made the edges of shared groups. -/
structure SharedEdges (g₀ g : Arena) (ss : List SharedGroup) (result : List Edge × Arena) : Prop where
  resolves : Resolves g₀ g result.2
  within : ∀ e ∈ result.1, e.Within result.2.size
  shares : ∀ h : Arena, Settles result.2 h → List.Forall₂
    (fun s e => e.group = s.group ∧ Shares h result.2.ambiguous s.left.link s.right.link e.link) ss result.1

theorem sharedEdges_unionSharedAll (hb : Grounded g₀ g) (h₀ : g₀.WellFormed) {ss : List SharedGroup}
    (hs : ∀ s ∈ ss, SharedWithin s g.size) : SharedEdges g₀ g ss (g.unionSharedAll ss) := by
  induction ss generalizing g with
  | nil => exact ⟨.refl hb, fun e he => (nomatch he), fun h _ => .nil⟩
  | cons s ss ih =>
    have hkeeps := keeps_unionSharedAll hb.wellFormed hs
    obtain ⟨hs, hss⟩ := List.forall_mem_cons.1 hs
    have hfirst := sharedEdge_unionShared hb h₀ hs
    have hle := hfirst.resolves.grows.size_le
    have hrest := ih hfirst.resolves.grounded fun s hs =>
      ⟨(hss s hs).1.mono hle, (hss s hs).2.mono hle⟩
    refine ⟨hfirst.resolves.trans hrest.resolves, hkeeps.2.2, fun h hsettles => .cons ⟨hfirst.group, ?_⟩ ?_⟩
    · exact (hfirst.shares h (hrest.resolves.grows.trans_settles hsettles)).mono hrest.resolves.ambiguous
    · exact hrest.shares h hsettles

section Join

/-- Joining the pieces of a split keeps the edges below a bound. -/
theorem within_join (ha : a.Within bound) (hb : b.Within bound) {edges : List Edge}
    (he : ∀ e ∈ edges, e.Within bound) : Node.Within
      ⟨.ofDisjoint ((split a.edges b.edges).leftOnly ++ (split a.edges b.edges).rightOnly ++ edges),
        a.accept ∪ b.accept, a.exit ∪ b.exit⟩ bound where
  edge e hmem := by
    have hpiece : ∀ {m : EdgeMap}, (∀ e ∈ m.edges, e.Within bound) →
        ∀ {e : Edge}, (∃ f ∈ m.edges, e.link = f.link) → e.Within bound := by
      rintro m hm e ⟨f, hf, hlink⟩
      refine ⟨?_, (congrArg Link.routes hlink).trans (hm f hf).routes⟩
      rw [show e.next = f.next from congrArg Link.next hlink]
      exact (hm f hf).next_lt
    obtain ⟨f, hf, hlink⟩ := EdgeMap.exists_of_mem_ofDisjoint hmem
    have hwithin : f.Within bound := by
      simp only [List.mem_append] at hf
      rcases hf with (hf | hf) | hf
      · exact hpiece ha.edge (EdgeMap.exists_of_mem_leftOnly hf)
      · exact hpiece hb.edge (EdgeMap.exists_of_mem_rightOnly hf)
      · exact he f hf
    refine ⟨?_, (congrArg Link.routes hlink).symm.trans hwithin.routes⟩
    rw [show e.next = f.next from (congrArg Link.next hlink).symm]
    exact hwithin.next_lt
  accept i hi := by
    rcases SortedSet.mem_union.1 hi with hi | hi
    · exact ha.accept i hi
    · exact hb.accept i hi
  exit h := by
    have hor := isAccepting_join.not.1 (Bool.eq_false_iff.1 h)
    rw [not_or, Bool.not_eq_true, Bool.not_eq_true] at hor
    simp [ha.exit hor.1, hb.exit hor.2]

theorem Keeps.noteExits (h : Keeps g (n, g')) (a b : Node) : Keeps g (n, g'.noteExits a b) where
  wellFormed := h.wellFormed.of_slots (slots_noteExits g' a b)
  grows := h.grows.trans (grows_of_slots (slots_noteExits g' a b))
  within := h.within.mono (grows_of_slots (slots_noteExits g' a b)).size_le

theorem keeps_unionNodes (hg : g.WellFormed) (ha : a.Within g.size) (hb : b.Within g.size) :
    Keeps g (g.unionNodes a b) := by
  obtain ⟨hg', hgrow, hedges⟩ := keeps_unionSharedAll hg (sharedWithin_of_mem ha hb)
  have hjoin := within_join (ha.mono hgrow.size_le) (hb.mono hgrow.size_le) hedges
  exact Keeps.noteExits ⟨hg', hgrow, hjoin⟩ a b

theorem keeps_preferNodes (hg : g.WellFormed) (ha : a.Within g.size) (hb : b.Within g.size) :
    Keeps g (g.preferNodes a b) := by
  refine Keeps.noteExits ⟨hg, .refl g, within_join ha hb fun e he => ?_⟩ a b
  obtain ⟨s, hs, rfl⟩ := List.mem_map.1 he
  have hleft := (sharedWithin_of_mem ha hb s hs).1
  exact ⟨hleft.next_lt, hleft.routes⟩

/-- The node that has the edges of both nodes says what both of them say. -/
theorem resolved_unionNodes (hb : Grounded g₀ g) (h₀ : g₀.WellFormed) (hwa : a.Within g.size)
    (hwb : b.Within g.size) (hda : Describes g S a) (hdb : Describes g T b) :
    Resolved g₀ g (fun i => S i ∨ T i) (g.unionNodes a b) := by
  have hshared := sharedEdges_unionSharedAll hb h₀ (sharedWithin_of_mem hwa hwb)
  have hnote := hshared.resolves.grounded.noteExits a b
  have hresolves := hshared.resolves.trans hnote
  refine ⟨hresolves, (keeps_unionNodes hb.wellFormed hwa hwb).within, fun h hh hs => ?_⟩
  have hs' : Settles g h := hresolves.grows.trans_settles hs
  refine Holds.union ((hda h hh hs').mono hresolves.ambiguous)
    ((hdb h hh hs').mono hresolves.ambiguous) hwa hwb (fun x => ?_) exit_eq_of_noteExits
  exact EdgeMap.joined_split ((hshared.shares h (hnote.grows.trans_settles hs)).imp
    fun s e hse => ⟨hse.1, hse.2.mono hnote.ambiguous⟩) x

/-- The node of a preference has the winner's edges where both sides have one. -/
theorem resolved_preferNodes (hb : Grounded g₀ g) {w v : Nat} (hr : g.recipe i = .prefer w v)
    (hwa : a.Within g.size) (hwb : b.Within g.size) (hda : Describes g (· = w) a)
    (hdb : Describes g (· = v) b) : Resolved g₀ g (· = i) (g.preferNodes a b) := by
  have hnote := hb.noteExits a b
  refine ⟨hnote, (keeps_preferNodes hb.wellFormed hwa hwb).within, fun h hh hs => ?_⟩
  have hs' : Settles g h := hnote.grows.trans_settles hs
  refine holds_prefer hh (hs'.recipe_of hr (by simp) (by simp)) ((hda h hh hs').mono hnote.ambiguous)
    ((hdb h hh hs').mono hnote.ambiguous) hwa hwb (fun x => ?_) exit_eq_of_noteExits
  refine EdgeMap.joined_split (List.forall₂_map_right_iff.2 (List.forall₂_same.2 fun s _ => ?_)) x
  exact ⟨rfl, rfl⟩

theorem within_overlay (hn : n.Within bound) : (n.overlay added).Within bound where
  edge e he := by
    obtain ⟨_, hmem, hlink⟩ := EdgeMap.exists_of_mem_ofDisjoint he
    obtain ⟨f, hf, rfl⟩ := List.mem_map.1 hmem
    refine ⟨?_, (congrArg Link.routes hlink).symm.trans (hn.edge f hf).routes⟩
    rw [show e.next = f.next from (congrArg Link.next hlink).symm]
    exact (hn.edge f hf).next_lt
  accept := hn.accept
  exit h := by
    have hacc : n.isAccepting = false := h
    simp [Node.overlay, hacc, hn.exit hacc]

end Join

section Rank

/-- The node can be worked out: the fuel suffices, and all nodes being worked out derive from it. -/
structure Ready (g : Arena) (fuel : Nat) (busy : List Nat) (i : Nat) : Prop where
  lt : i < g.size
  rank_lt : g.rank i < fuel
  derives : ∀ b ∈ busy, TransGen g.Operand b i

variable {fuel : Nat} {busy : List Nat}

theorem Ready.grows (hi : Ready g fuel busy i) (hg : g.WellFormed) (hgrow : Grows g g') :
    Ready g' fuel busy i where
  lt := Nat.lt_of_lt_of_le hi.lt hgrow.size_le
  rank_lt := by
    rw [hgrow.rank_eq hg hi.lt]
    exact hi.rank_lt
  derives b hb := hgrow.derives (hi.derives b hb)

theorem Ready.canonical (hi : Ready g fuel busy i) (hg : g.WellFormed) :
    Ready g fuel busy (g.canonical i) where
  lt := canonical_lt hg hi.lt
  rank_lt := Nat.lt_of_le_of_lt (rank_canonical_le hg.founded i) hi.rank_lt
  derives b hb := (hi.derives b hb).trans_left (derives_canonical hg.founded i)

theorem Ready.not_busy (hi : Ready g fuel busy i) (hg : g.WellFormed) : i ∉ busy := fun hb =>
  hg.acyclic i (hi.derives i hb)

theorem Ready.operand (hi : Ready g (fuel + 1) busy i) (hg : g.WellFormed) (hop : g.Operand i j) :
    Ready g fuel (i :: busy) j where
  lt := hg.operand_lt i j hop
  rank_lt := by
    have := hg.rank_lt hop
    have := hi.rank_lt
    omega
  derives b hb := by
    rcases List.mem_cons.1 hb with rfl | hb
    · exact .single hop
    · exact (hi.derives b hb).tail hop

end Rank

section Resolve

variable {fuel : Nat} {busy : List Nat} {visit : Nat → Arena → Node × Arena}

/-- The node does not lead to an open marker. -/
def Ripe (g : Arena) (i : Nat) : Prop := ∀ j, ReflTransGen g.Operand i j → g.recipe j ≠ .marker none

theorem Ripe.operand (hr : Ripe g i) (hop : g.Operand i j) : Ripe g j := fun k hk => hr k (hk.head hop)

theorem Ripe.grows (hr : Ripe g i) (hg : g.WellFormed) (hi : i < g.size) (hgrow : Grows g g') : Ripe g' i := by
  intro j hij
  rcases Relation.reflTransGen_iff_eq_or_transGen.1 hij with rfl | hij
  · rw [hgrow.recipe_eq j hi]
    exact hr j .refl
  · have hij := hgrow.transGen hg.operand_lt hi hij
    obtain ⟨k, -, hop⟩ := TransGen.tail'_iff.1 hij
    rw [hgrow.recipe_eq j (hg.operand_lt k j hop)]
    exact hr j hij.to_reflTransGen

theorem Ripe.canonical (hr : Ripe g i) (hg : g.WellFormed) : Ripe g (g.canonical i) := fun j hj =>
  hr j ((derives_canonical hg.founded i).trans hj)

/-- Nodes that the fuel suffices for are worked out. -/
def Works (g₀ : Arena) (fuel : Nat) (busy : List Nat) (visit : Nat → Arena → Node × Arena) : Prop :=
  ∀ {i : Nat} {g : Arena}, Grounded g₀ g → Ready g fuel busy i → Ripe g i → Resolved g₀ g (· = i) (visit i g)

theorem Resolved.congr {result : Node × Arena} (hr : Resolved g₀ g S result) (hST : ∀ i, S i ↔ T i) :
    Resolved g₀ g T result := by
  obtain rfl : S = T := funext fun i => propext (hST i)
  exact hr

theorem resolved_resolveUnion (hworks : Works g₀ fuel busy visit) (h₀ : g₀.WellFormed) {rest : List Nat}
    (hb : Grounded g₀ g) (hrest : ∀ i ∈ rest, Ready g fuel busy i ∧ Ripe g i) (hw : n.Within g.size)
    (hd : Describes g S n) :
    Resolved g₀ g (fun i => S i ∨ i ∈ rest) (resolveUnion visit rest n g) := by
  induction rest generalizing n g S with
  | nil =>
    rw [resolveUnion]
    exact Resolved.congr ⟨.refl hb, hw, hd⟩ fun j => by simp
  | cons i rest ih =>
    obtain ⟨hi, hrest⟩ := List.forall_mem_cons.1 hrest
    have hone := hworks hb hi.1 hi.2
    have hstep := hone.resolves
    have hunion := resolved_unionNodes hstep.grounded h₀ (hw.mono hstep.grows.size_le) hone.within
      (hstep.describes hd) hone.describes
    have hboth := hstep.trans hunion.resolves
    have hothers := ih hunion.resolves.grounded
      (fun j hj => ⟨(hrest j hj).1.grows hb.wellFormed hboth.grows,
        (hrest j hj).2.grows hb.wellFormed (hrest j hj).1.lt hboth.grows⟩) hunion.within hunion.describes
    rw [resolveUnion]
    exact (hothers.after hboth).congr fun j => by simp only [List.mem_cons, or_assoc]

theorem resolved_resolveRecipe (hworks : Works g₀ fuel (i :: busy) visit) (h₀ : g₀.WellFormed)
    (hb : Grounded g₀ g) (hi : Ready g (fuel + 1) busy i) (hripe : Ripe g i) (hbuilt : g.recipe i ≠ .built)
    (hentry : ∀ e, g.recipe i ≠ .marker (some e)) :
    Resolved g₀ g (· = i) (resolveRecipe visit (g.recipe i) g) := by
  have hready : ∀ {j}, (g.recipe i).Names j → Ready g fuel (i :: busy) j ∧ Ripe g j := fun hop =>
    ⟨hi.operand hb.wellFormed hop, hripe.operand hop⟩
  cases hr : g.recipe i with
  | built => exact absurd hr hbuilt
  | marker target? =>
    cases target? with
    | none => exact absurd hr (hripe i .refl)
    | some e => exact absurd hr (hentry e)
  | union members =>
    rw [hr] at hready
    have hall := @resolved_resolveUnion _ _ _ _ _ _ visit hworks h₀ members.toList hb (fun m hm => hready hm)
      (Node.within_dead g.size) fun h _ _ => holds_dead h g.ambiguous
    rw [resolveRecipe]
    refine ⟨hall.resolves, hall.within, hall.describes.of_covers fun {h} _ hs => ?_⟩
    have hr' := (hall.resolves.grows.trans_settles hs).recipe_of hr (by simp) (by simp)
    exact (covers_members hr').congr fun m => (false_or _).symm ▸ Iff.rfl
  | annotate inner added =>
    rw [hr] at hready
    have hinner := hworks hb (hready rfl).1 (hready rfl).2
    rw [resolveRecipe]
    refine ⟨hinner.resolves, within_overlay hinner.within, fun h hh hs => ?_⟩
    have hr' := (hinner.resolves.grows.trans_settles hs).recipe_of hr (by simp) (by simp)
    exact holds_overlay hr' (hinner.describes h hh hs)
  | prefer w v =>
    rw [hr] at hready
    obtain ⟨hl, hlripe⟩ := hready (.inr rfl)
    have hwinner := hworks hb (hready (.inl rfl)).1 (hready (.inl rfl)).2
    have hloser := hworks hwinner.resolves.grounded (hl.grows hb.wellFormed hwinner.resolves.grows)
      (hlripe.grows hb.wellFormed hl.lt hwinner.resolves.grows)
    have hboth := hwinner.resolves.trans hloser.resolves
    have hr' := (hboth.grows.recipe_eq i hi.lt).trans hr
    rw [resolveRecipe]
    exact (resolved_preferNodes hloser.resolves.grounded hr'
      (hwinner.within.mono hloser.resolves.grows.size_le) hloser.within
      (hloser.resolves.describes hwinner.describes) hloser.describes).after hboth

theorem works (h₀ : g₀.WellFormed) (fuel : Nat) (busy : List Nat) :
    Works g₀ fuel busy (resolveWithin fuel busy) := by
  induction fuel generalizing busy with
  | zero =>
    intro i g _ hi
    exact absurd hi.rank_lt (Nat.not_lt_zero _)
  | succ fuel ih =>
    intro i g hb hi hripe
    have hc := hi.canonical hb.wellFormed
    have hripe := hripe.canonical hb.wellFormed
    have hcovers : ∀ {h : Arena}, Settles g h → Covers h i (· = g.canonical i) := fun hs =>
      covers_canonical hb.wellFormed hs i
    have hentry := canonical_ne_entry hb.wellFormed.founded i
    rw [resolveWithin]
    generalize g.canonical i = c at hc hripe hcovers hentry
    have hmarker : ∀ t, g.recipe c ≠ .marker t := fun t hr => by
      cases t with
      | none => exact hripe c .refl hr
      | some e => exact hentry e hr
    cases hn : g.content? c with
    | some n =>
      have hnode : (g.slots.getD c default).node? = some n := hn
      simp only [hnode]
      exact ⟨.refl hb, hb.wellFormed.content c n hn, (hb.known c n hn hmarker).of_covers fun _ hs => hcovers hs⟩
    | none =>
      have hbuilt : g.recipe c ≠ .built := fun hr => hb.wellFormed.built c hc.lt hr hn
      have hone := resolved_resolveRecipe (ih (c :: busy)) h₀ hb hc hripe hbuilt hentry
      have hbusy : busy.contains c = false := by simpa using hc.not_busy hb.wellFormed
      have hnode : (g.slots.getD c default).node? = none := hn
      simp only [hnode, hbusy, Bool.false_eq_true, if_false]
      have hset := hone.resolves.grounded.setNode
        (by rwa [hone.resolves.grows.recipe_eq c hc.lt]) hone.within fun _ => hone.describes
      refine ⟨hone.resolves.trans hset, hone.within.mono hset.grows.size_le, ?_⟩
      exact (hset.describes hone.describes).of_covers fun _ hs =>
        hcovers ((hone.resolves.trans hset).grows.trans_settles hs)

/-- The content worked out for a node that leads to no open marker says what the node does. -/
theorem resolved_of_ripe (h₀ : g₀.WellFormed) (hb : Grounded g₀ g) (hi : i < g.size) (hripe : Ripe g i) :
    Resolved g₀ g (· = i) (g.resolve i) :=
  works h₀ _ _ hb ⟨hi, Nat.lt_succ_of_lt (hb.wellFormed.rank_lt_size i), fun _ hb => (nomatch hb)⟩ hripe

/-- The content worked out for a node says what the node does. -/
theorem resolved_resolve (h₀ : g₀.WellFormed) (hb : Based g₀ g) (hi : i < g.size) :
    Resolved g₀ g (· = i) (g.resolve i) :=
  resolved_of_ripe h₀ hb.toGrounded hi fun j _ => hb.closed j

/-- No open marker is below the node that a node stands for, which may be one itself. -/
def Quiet (g : Arena) (i : Nat) : Prop := ∀ j, TransGen g.Operand (g.canonical i) j → g.recipe j ≠ .marker none

theorem quiet_of_closed (hclosed : ∀ j, g.recipe j ≠ .marker none) : Quiet g i := fun j _ => hclosed j

theorem quiet_of_open (hr : g.recipe i = .marker none) : Quiet g i := by
  intro j hij
  rw [canonical_of_ne (by simp [hr])] at hij
  obtain ⟨k, hop, -⟩ := TransGen.head'_iff.1 hij
  rw [Operand, hr] at hop
  cases hop

theorem Quiet.ripe (hq : Quiet g i) (hg : g.WellFormed) (hc : g.recipe (g.canonical i) ≠ .marker none) : Ripe g i := by
  intro j hij
  have hcases : (∃ e, g.recipe j = .marker (some e)) ∨ ReflTransGen g.Operand (g.canonical i) j := by
    clear hq hc
    induction i using canonical_induct hg.founded with
    | entry i e hr ih =>
      rw [canonical_entry hg.founded hr]
      rcases Relation.ReflTransGen.cases_head hij with rfl | ⟨k, hop, hkj⟩
      · exact .inl ⟨e, hr⟩
      · rw [Operand, hr] at hop
        exact ih (Option.some.inj hop ▸ hkj)
    | other i hne =>
      rw [canonical_of_ne hne]
      exact .inr hij
  rcases hcases with ⟨e, he⟩ | hij
  · simp [he]
  · rcases Relation.reflTransGen_iff_eq_or_transGen.1 hij with rfl | hij
    · exact hc
    · exact hq j hij

/-- Working out a node is sound as long as no open marker is below it. -/
theorem resolves_of_quiet (h₀ : g₀.WellFormed) (hb : Grounded g₀ g) (hi : i < g.size) (hq : Quiet g i) :
    Resolves g₀ g (g.resolve i).2 := by
  by_cases hc : g.recipe (g.canonical i) = .marker none
  · -- an open marker counts as empty, which is forgotten when the marker is closed
    rw [resolve, resolveWithin]
    dsimp only
    split
    · exact .refl hb
    · rw [hc]
      refine hb.setNode (by simp [hc]) (Node.within_dead _) fun hne => absurd hc (hne none)
  · exact (resolved_of_ripe h₀ hb hi (hq.ripe hb.wellFormed hc)).resolves

end Resolve

end Polymatch.Arena
