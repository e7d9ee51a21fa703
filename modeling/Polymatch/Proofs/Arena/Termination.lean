import Mathlib.Logic.Function.Iterate
import Polymatch.Proofs.Arena.Realize
import Polymatch.Proofs.Arena.Writes

/-! # Loops that end

Markers are followed, members collected, annotations merged, nodes subtracted and
contents worked out by recursion along the recipes, and freezing goes on until its
list is dealt with. None of these loops has a bound of its own. Each is one step that
calls the loop again; since no node derives from itself, it answers after finitely
many steps, and what it answers is what the bounded loop answers.
-/

namespace Polymatch.Arena

open Relation (TransGen ReflTransGen)

/-- However the loop would go on below some depth, the question is answered above it. -/
def Answers {F β : Type} (step : F → F) (question : F → β) (answer : β) : Prop :=
  ∃ depth, ∀ deeper : F, question (step^[depth] deeper) = answer

variable {g₀ g g' : Arena} {i j : Nat}

section Canonical

/-- Follow one marker. -/
def followStep (g : Arena) (follow : Nat → Nat) (i : Nat) : Nat :=
  match g.recipe i with
  | .marker (some entry) => follow entry
  | _ => i

theorem follow_succ (g : Arena) (fuel : Nat) : g.follow (fuel + 1) = g.followStep (g.follow fuel) := rfl

theorem iterate_followStep (hg : g.WellFormed) {fuel : Nat} (hfuel : g.rank i < fuel) (deeper : Nat → Nat) :
    g.followStep^[fuel] deeper i = g.follow fuel i := by
  induction fuel generalizing i with
  | zero => omega
  | succ fuel ih =>
    rw [Function.iterate_succ_apply', follow_succ, followStep, followStep]
    split
    · rename_i entry hr
      have := hg.rank_lt (operand_entry hr)
      exact ih (by omega)
    · rfl

/-- Collect the members of the node, given those of the nodes that it derives from. -/
def membersStep (g : Arena) (members : Nat → IdSet) (i : Nat) : IdSet :=
  let i := g.canonical i
  if i = nothing then ∅
  else match g.recipe i with
    | .union nodes =>
      if nodes.toList.any g.isClosedMarker then nodes.toList.foldl (fun s m => s ∪ members m) ∅ else nodes
    | _ => .singleton i

theorem membersWithin_succ (g : Arena) (fuel : Nat) :
    g.membersWithin (fuel + 1) = g.membersStep (g.membersWithin fuel) := rfl

theorem iterate_membersStep (hg : g.WellFormed) {fuel : Nat} (hfuel : g.rank i < fuel)
    (deeper : Nat → IdSet) : g.membersStep^[fuel] deeper i = g.membersWithin fuel i := by
  induction fuel generalizing i with
  | zero => omega
  | succ fuel ih =>
    rw [Function.iterate_succ_apply', membersWithin_succ, membersStep, membersStep]
    have hle := rank_canonical_le hg.founded i
    generalize g.canonical i = c at hle
    split
    · rfl
    · split
      · rename_i nodes hr
        split
        · refine List.foldl_ext _ _ _ fun s m hm => ?_
          have := hg.rank_lt (operand_member hr (SortedSet.mem_def.2 hm))
          rw [ih (by omega)]
        · rfl
      · rfl

end Canonical

section Annotate

variable {marks : Marks}

/-- Annotate a node, or the node that an annotation is about. -/
def annotateStep (g : Arena) (annotate : Nat → Marks → Nat × Arena) (inner : Nat) (marks : Marks) :
    Nat × Arena :=
  let inner := g.canonical inner
  if marks.isEmpty || inner = nothing then (inner, g)
  else match g.recipe inner with
    | .annotate deeper existing => annotate deeper (existing ∪ marks)
    | _ => g.derive (.annotate inner marks)

theorem annotateWithin_succ (g : Arena) (fuel : Nat) :
    annotateWithin (fuel + 1) g = g.annotateStep (annotateWithin fuel g) := rfl

theorem iterate_annotateStep (hg : g.WellFormed) {fuel : Nat} (hfuel : g.rank i < fuel)
    (deeper : Nat → Marks → Nat × Arena) :
    g.annotateStep^[fuel] deeper i marks = annotateWithin fuel g i marks := by
  induction fuel generalizing i marks with
  | zero => omega
  | succ fuel ih =>
    rw [Function.iterate_succ_apply', annotateWithin_succ, annotateStep, annotateStep]
    have hle := rank_canonical_le hg.founded i
    generalize g.canonical i = c at hle
    split
    · rfl
    · split
      · rename_i inner existing hr
        have := hg.rank_lt (operand_inner hr)
        exact ih (by omega)
      · rfl

end Annotate

section Subtract

variable {removed : IdSet} {busy : Nat → Prop} {bound : Nat}
  {visit visit' : Nat → Subtraction → Nat × Subtraction}

/-- Take `removed` out of a node, given how to take it out of the nodes that it derives from. -/
def subtractStep (removed : IdSet) (visit : Nat → Subtraction → Nat × Subtraction) (i : Nat)
    (s : Subtraction) : Nat × Subtraction :=
  if removed.contains i then (nothing, s)
  else match s.done.lookup i with
    | some result => (result, s)
    | none =>
      let (result, s) := subtractFrom visit i { s with done := (i, i) :: s.done }
      (result, { s with done := (i, result) :: s.done })

/-- Two ways to subtract do the same with nodes of small rank. -/
def SubtractsAlike (g : Arena) (removed : IdSet) (bound : Nat)
    (visit visit' : Nat → Subtraction → Nat × Subtraction) : Prop :=
  ∀ (i : Nat) (s : Subtraction) (busy : Nat → Prop), g.rank i < bound → i < g.size →
    Underway g removed busy s → (∀ b, busy b → TransGen g.Operand b i) → visit' i s = visit i s

theorem subtractEach_congr (hf : Subtracts g removed bound visit)
    (halike : SubtractsAlike g removed bound visit visit') {nodes : List Nat} {s : Subtraction}
    (hu : Underway g removed busy s)
    (hn : ∀ m ∈ nodes, g.rank m < bound ∧ m < g.size ∧ ∀ b, busy b → TransGen g.Operand b m) :
    subtractEach visit' nodes s = subtractEach visit nodes s := by
  induction nodes generalizing s with
  | nil => rfl
  | cons m nodes ih =>
    obtain ⟨hrank, hlt, hbusy⟩ := hn m List.mem_cons_self
    have hfirst := hf m s busy hrank hlt hu hbusy
    simp only [subtractEach]
    rw [halike m s busy hrank hlt hu hbusy, ih hfirst.underway fun k hk => hn k (List.mem_cons_of_mem _ hk)]

theorem subtractFrom_congr (hf : Subtracts g removed bound visit)
    (halike : SubtractsAlike g removed bound visit visit') (hg : g.WellFormed) {s : Subtraction}
    (hu : Underway g removed busy s) (hrank : g.rank i ≤ bound) (hi : i < g.size)
    (hbusy : ∀ b, busy b → b = i ∨ TransGen g.Operand b i) :
    subtractFrom visit' i s = subtractFrom visit i s := by
  have hoperand : ∀ j, g.Operand i j → g.rank j < bound ∧ j < g.size ∧ ∀ b, busy b → TransGen g.Operand b j :=
    fun _ => hg.founded.operand_ready hrank hbusy
  have hone : ∀ {j}, g.Operand i j → visit' j s = visit j s := fun hop =>
    let ⟨hrank', hlt, hbusy'⟩ := hoperand _ hop
    halike _ s busy hrank' hlt hu hbusy'
  have hrecipe := hu.grows.recipe_eq i hi
  rw [subtractFrom, subtractFrom]
  cases hr : g.recipe i with
  | built => simp only [hrecipe, hr]
  | marker target? =>
    cases target? with
    | none => simp only [hrecipe, hr]
    | some entry => simp only [hrecipe, hr, hone (operand_entry hr)]
  | union members =>
    have heach := subtractEach_congr hf halike hu fun m hm =>
      hoperand m (operand_member hr (SortedSet.mem_def.2 hm))
    simp only [hrecipe, hr, heach]
  | annotate inner added => simp only [hrecipe, hr, hone (operand_inner hr)]
  | prefer winner loser =>
    obtain ⟨hrank₁, hlt₁, hbusy₁⟩ := hoperand winner (operand_winner hr)
    obtain ⟨hrank₂, hlt₂, hbusy₂⟩ := hoperand loser (operand_loser hr)
    have hsub := hf winner s busy hrank₁ hlt₁ hu hbusy₁
    simp only [hrecipe, hr, hone (operand_winner hr),
      halike loser _ busy hrank₂ hlt₂ hsub.underway hbusy₂]

theorem subtractWithin_succ (removed : IdSet) (fuel : Nat) :
    subtractWithin removed (fuel + 1) = subtractStep removed (subtractWithin removed fuel) := rfl

theorem iterate_subtractStep (hg : g.WellFormed) (fuel : Nat)
    (deeper : Nat → Subtraction → Nat × Subtraction) :
    SubtractsAlike g removed fuel (subtractWithin removed fuel) ((subtractStep removed)^[fuel] deeper) := by
  induction fuel with
  | zero => exact fun i s busy hrank => absurd hrank (Nat.not_lt_zero _)
  | succ fuel ih =>
    intro i s busy hrank hi hu hbusy
    have hu' := hu.enter i
    have hfrom := subtractFrom_congr (subtractWithin_spec hg fuel) ih hg hu' (Nat.le_of_lt_succ hrank) hi
      fun b hb => hb.imp_right (hbusy b)
    rw [Function.iterate_succ_apply', subtractWithin_succ, subtractStep, subtractStep, hfrom]

end Subtract

section Resolve

variable {fuel : Nat} {busy : List Nat} {n a b : Node} {visit visit' : Nat → Arena → Node × Arena}

/-- Work out the content of a node, given those of the nodes that it derives from. Where it is being
worked out already, this never comes to an end. -/
def resolveStep (resolve : List Nat → Nat → Arena → Node × Arena) (busy : List Nat) (i : Nat) (g : Arena) :
    Node × Arena :=
  let i := g.canonical i
  match (g.slots.getD i default).node? with
  | some node => (node, g)
  | none =>
    if busy.contains i then resolve busy i g
    else
      let (node, g) := resolveRecipe (resolve (i :: busy)) (g.recipe i) g
      (node, g.setNode i node)

/-- Two ways to work out nodes do the same with those that the fuel suffices for. -/
def WorksAlike (fuel : Nat) (busy : List Nat) (visit visit' : Nat → Arena → Node × Arena) : Prop :=
  ∀ {i : Nat} {g : Arena}, g.WellFormed → Ready g fuel busy i →
    visit' i g = visit i g ∧ Keeps g (visit i g)

theorem resolveUnion_congr (halike : WorksAlike fuel busy visit visit') {rest : List Nat} (hg : g.WellFormed)
    (hrest : ∀ i ∈ rest, Ready g fuel busy i) (hn : n.Within g.size) :
    resolveUnion visit' rest n g = resolveUnion visit rest n g ∧ Keeps g (resolveUnion visit rest n g) := by
  induction rest generalizing n g with
  | nil => exact ⟨rfl, hg, .refl g, hn⟩
  | cons i rest ih =>
    obtain ⟨hi, hrest⟩ := List.forall_mem_cons.1 hrest
    obtain ⟨heq, hone⟩ := halike hg hi
    have hunion := keeps_unionNodes hone.wellFormed (hn.mono hone.grows.size_le) hone.within
    have hgrow := hone.grows.trans hunion.grows
    obtain ⟨heq', hothers⟩ := ih hunion.wellFormed (fun j hj => (hrest j hj).grows hg hgrow) hunion.within
    simp only [resolveUnion, heq, heq']
    exact ⟨trivial, hothers.wellFormed, hgrow.trans hothers.grows, hothers.within⟩

theorem resolveRecipe_congr (halike : WorksAlike fuel (i :: busy) visit visit') (hg : g.WellFormed)
    (hi : Ready g (fuel + 1) busy i) :
    resolveRecipe visit' (g.recipe i) g = resolveRecipe visit (g.recipe i) g ∧
      Keeps g (resolveRecipe visit (g.recipe i) g) := by
  have hready : ∀ {j}, (g.recipe i).Names j → Ready g fuel (i :: busy) j := hi.operand hg
  cases hr : g.recipe i with
  | built => exact ⟨rfl, hg, .refl g, Node.within_dead _⟩
  | marker target? => exact ⟨rfl, hg, .refl g, Node.within_dead _⟩
  | union members =>
    rw [hr] at hready
    exact resolveUnion_congr halike hg (fun m hm => hready hm) (Node.within_dead g.size)
  | annotate inner added =>
    rw [hr] at hready
    obtain ⟨heq, hinner⟩ := halike hg (hready rfl)
    simp only [resolveRecipe, heq]
    exact ⟨trivial, hinner.wellFormed, hinner.grows, within_overlay hinner.within⟩
  | prefer w v =>
    rw [hr] at hready
    obtain ⟨heq, hwinner⟩ := halike hg (hready (.inl rfl))
    obtain ⟨heq', hloser⟩ := halike hwinner.wellFormed ((hready (.inr rfl)).grows hg hwinner.grows)
    have hboth := keeps_preferNodes hloser.wellFormed (hwinner.within.mono hloser.grows.size_le) hloser.within
    simp only [resolveRecipe, heq, heq']
    exact ⟨trivial, hboth.wellFormed, (hwinner.grows.trans hloser.grows).trans hboth.grows, hboth.within⟩

theorem iterate_resolveStep (fuel : Nat) (busy : List Nat)
    (deeper : List Nat → Nat → Arena → Node × Arena) :
    WorksAlike fuel busy (resolveWithin fuel busy) (resolveStep^[fuel] deeper busy) := by
  induction fuel generalizing busy with
  | zero => exact fun _ hi => absurd hi.rank_lt (Nat.not_lt_zero _)
  | succ fuel ih =>
    intro i g hg hi
    have hc := hi.canonical hg
    rw [Function.iterate_succ_apply', resolveStep, resolveWithin]
    generalize g.canonical i = c at hc
    cases hn : g.content? c with
    | some n =>
      have hnode : (g.slots.getD c default).node? = some n := hn
      simp only [hnode]
      exact ⟨trivial, hg, .refl g, hg.content c n hn⟩
    | none =>
      have hbuilt : g.recipe c ≠ .built := fun hr => hg.built c hc.lt hr hn
      have hbusy : busy.contains c = false := by simpa using hc.not_busy hg
      have hnode : (g.slots.getD c default).node? = none := hn
      obtain ⟨heq, hone⟩ := resolveRecipe_congr (ih (c :: busy)) hg hc
      have hbuilt' : (resolveRecipe (resolveWithin fuel (c :: busy)) (g.recipe c) g).2.recipe c ≠ .built := by
        rwa [hone.grows.recipe_eq c hc.lt]
      simp only [hnode, hbusy, Bool.false_eq_true, if_false, heq]
      have hset := grows_setNode _ _ (resolveRecipe (resolveWithin fuel (c :: busy)) (g.recipe c) g).1 hbuilt'
      refine ⟨trivial, hone.wellFormed.setNode hbuilt' hone.within, hone.grows.trans hset, ?_⟩
      rw [size_setNode]
      exact hone.within

end Resolve

section Freeze

variable {order : Array Nat} {nodes : Array Node} {start : Nat}

/-- Deal with one node of the list. -/
def freezeStep (freeze : Arena → Array Nat → Array Node → Array Node × Arena) (g : Arena)
    (order : Array Nat) (nodes : Array Node) : Array Node × Arena :=
  match order[nodes.size]? with
  | none => (nodes, g)
  | some i =>
    let (node, g) := g.resolve i
    let order := node.edges.edges.foldl g.discover order
    freeze g order (nodes.push { node with edges := node.edges.map (g.renumber order) })

theorem iterate_freezeStep (h₀ : g₀.WellFormed) {fuel : Nat} (hf : Freezing g₀ g order nodes)
    (hfuel : g₀.size + 2 ^ g₀.size ≤ nodes.size + fuel)
    (deeper : Arena → Array Nat → Array Node → Array Node × Arena) :
    freezeStep^[fuel + 1] deeper g order nodes = g.freezeWithin fuel order nodes := by
  induction fuel generalizing g order nodes with
  | zero =>
    have := hf.listed.size_le
    have := hf.based.size_le
    rw [Function.iterate_succ_apply', freezeStep, freezeWithin, Array.getElem?_eq_none (by omega)]
  | succ fuel ih =>
    rw [Function.iterate_succ_apply', freezeStep, freezeWithin]
    cases hi : order[nodes.size]? with
    | none => rfl
    | some i => exact ih (hf.step h₀ hi).1 (by rw [Array.size_push]; omega)

/-- The arena, the list and the states while a node of the list is dealt with. -/
inductive Deals : Arena × Array Nat × Array Node → Arena × Array Nat × Array Node → Prop
  | node {g : Arena} {order : Array Nat} {nodes : Array Node} {i : Nat} : order[nodes.size]? = some i →
    Deals (g, order, nodes)
      (let r := g.resolve i
      let order' := r.1.edges.edges.foldl r.2.discover order
      (r.2, order', nodes.push { r.1 with edges := r.1.edges.map (r.2.renumber order') }))

/-- Once some nodes of the list are dealt with, the rest of them remain to be. -/
theorem freezing_of_deals (h₀ : g₀.WellFormed) {s t : Arena × Array Nat × Array Node}
    (hd : ReflTransGen Deals s t) {fuel : Nat} (hf : Freezing g₀ s.1 s.2.1 s.2.2)
    (hfuel : g₀.size + 2 ^ g₀.size ≤ s.2.2.size + fuel) :
    Freezing g₀ t.1 t.2.1 t.2.2 ∧ Writes s.1 t.1 ∧ Writes t.1 (s.1.freezeWithin fuel s.2.1 s.2.2).2 := by
  induction hd using ReflTransGen.head_induction_on generalizing fuel with
  | refl => exact ⟨hf, .refl, (freezing_freezeWithin h₀ hf hfuel).1.writes⟩
  | head hdeal _ ih =>
    obtain @⟨g, order, nodes, i, hi⟩ := hdeal
    have hone := resolved_resolve h₀ hf.based (hf.listed.lt i (Array.mem_of_getElem? hi))
    dsimp only at hfuel
    cases fuel with
    | zero =>
      have hsize : order.size ≤ g.size := hf.listed.size_le
      have hbased : g.size ≤ g₀.size + 2 ^ g₀.size := hf.based.size_le
      obtain ⟨hlt, -⟩ := Array.getElem?_eq_some_iff.1 hi
      omega
    | succ fuel =>
      obtain ⟨hf', hbefore, hafter⟩ := @ih fuel (hf.step h₀ hi).1 (by rw [Array.size_push]; omega)
      refine ⟨hf', hone.resolves.writes.trans hbefore, ?_⟩
      dsimp only
      rw [freezeWithin, hi]
      exact hafter

end Freeze

/-- The loops that walk the recipes answer for every node of the arena. -/
structure LoopsEnd (g : Arena) : Prop where
  canonical : ∀ i < g.size, Answers g.followStep (fun follow => follow i) (g.canonical i)
  members : ∀ i < g.size, Answers g.membersStep (fun members => members i) (g.members i)
  annotate : ∀ i < g.size, ∀ marks,
    Answers g.annotateStep (fun annotate => annotate i marks) (g.annotate i marks)
  subtract : ∀ i < g.size, ∀ remove, Answers (subtractStep (g.members remove))
    (fun visit => let (result, s) := visit i ⟨[], g⟩; (result, s.arena)) (g.subtract i remove)
  resolve : ∀ i < g.size, Answers resolveStep (fun resolve => resolve [] i g) (g.resolve i)

/-- In a well-formed arena no node derives from itself, so every loop comes to an end. -/
theorem WellFormed.loopsEnd (hg : g.WellFormed) : g.LoopsEnd where
  canonical i _ := ⟨g.size, iterate_followStep hg (hg.rank_lt_size i)⟩
  members i _ := ⟨g.size + 1, iterate_membersStep hg (Nat.lt_succ_of_lt (hg.rank_lt_size i))⟩
  annotate i _ _ := ⟨g.size + 1, iterate_annotateStep hg (Nat.lt_succ_of_lt (hg.rank_lt_size i))⟩
  subtract i hi remove := by
    refine ⟨g.size + 1, fun deeper => ?_⟩
    have hu : Underway g (g.members remove) (fun _ => False) ⟨[], g⟩ := .start hg
    have halike := iterate_subtractStep hg (g.size + 1) deeper i ⟨[], g⟩ _
      (Nat.lt_succ_of_lt (hg.rank_lt_size i)) hi hu fun _ hb => hb.elim
    simp only [halike]
    rfl
  resolve i hi := ⟨g.size + 1, fun deeper => (iterate_resolveStep (g.size + 1) [] deeper hg
    ⟨hi, Nat.lt_succ_of_lt (hg.rank_lt_size i), fun _ hb => nomatch hb⟩).1⟩

/-- `x` lies on the way from the arena of the two fixed nodes to `h`. -/
structure OnTheWay (h x : Arena) : Prop where
  before : Writes .new x
  after : Writes x h

/-- Freezing a node comes to an end. On the way from the two fixed nodes to what is frozen, no node derives
from itself and all loops end. When freezing begins all markers have been closed, and all that it adds are
unions, no two of them of the same nodes. -/
structure Completes (g : Arena) (start : Nat) : Prop where
  onTheWay : OnTheWay (g.freeze start).2 g
  acyclic : ∀ x, OnTheWay (g.freeze start).2 x → ∀ i, ¬ TransGen x.Operand i i
  loops : ∀ x, OnTheWay (g.freeze start).2 x → x.LoopsEnd
  closed : ∀ i, g.recipe i ≠ .marker none
  freeze : Answers freezeStep (fun freeze =>
    let (nodes, h) := freeze g #[g.canonical start] #[]
    ((Automaton.ofNodes nodes 0).withAmbiguous h.ambiguous, h)) (g.freeze start)
  deals : ∀ s, ReflTransGen Deals (g, #[g.canonical start], #[]) s →
    OnTheWay (g.freeze start).2 s.1 ∧ ∀ i ∈ s.2.1, i < s.1.size
  unions : ∀ i, g.size ≤ i → i < (g.freeze start).2.size → ∃ members,
    (g.freeze start).2.recipe i = .union members ∧ ∀ m ∈ members, m < g.size ∧ g.Atomic m
  distinct : ∀ i j, g.size ≤ i → i < j → j < (g.freeze start).2.size →
    (g.freeze start).2.recipe i ≠ (g.freeze start).2.recipe j

/-- A node that has been built from nothing can be frozen. -/
theorem Grown.completes {start : Nat} (hg : Grown .new (start, g)) : g.Completes start := by
  have hb : Based g g := hg.based
  obtain ⟨hresolves, -⟩ := frozen_of_based hg.wellFormed hb hg.lt
  have hacyclic : ∀ x, OnTheWay (g.freeze start).2 x → ∀ i, ¬ TransGen x.Operand i i := fun x hx =>
    hx.after.settles.acyclic hresolves.grounded.wellFormed.acyclic
  refine ⟨⟨hg.grows.writes, hresolves.writes⟩, hacyclic, ?_, hb.closed, ?_, ?_, hresolves.grounded.unions,
    hresolves.grounded.distinct⟩
  · exact fun x hx => (hx.before.wellFormed (hacyclic x hx)).loopsEnd
  · refine ⟨2 ^ g.size + g.size + 1, fun deeper => ?_⟩
    simp only [iterate_freezeStep hg.wellFormed (hb.freezing hg.lt) hb.fuel_le deeper]
    rfl
  · intro s hs
    obtain ⟨hf, hbefore, hafter⟩ := freezing_of_deals hg.wellFormed hs (hb.freezing hg.lt) hb.fuel_le
    exact ⟨⟨hg.grows.writes.trans hbefore, hafter⟩, hf.listed.lt⟩

end Polymatch.Arena
