import Mathlib.Logic.Relation
import Polymatch.Arena.Compile

/-! # Growing arenas

Building and resolving only add nodes to an arena: the recipes that it has stay as
they are, and so do the nodes built outright. Closing a loop changes the recipe of
its marker alone.
-/

namespace Polymatch

/-- The recipe derives its node from `j`. -/
@[simp] def Recipe.Names : Recipe → Nat → Prop
  | built, _ => False
  | union members, j => j ∈ members
  | annotate inner _, j => j = inner
  | prefer winner loser, j => j = winner ∨ j = loser
  | marker target?, j => target? = some j

instance (r : Recipe) (j : Nat) : Decidable (r.Names j) :=
  match r with
  | .built => inferInstanceAs (Decidable False)
  | .union members => inferInstanceAs (Decidable (j ∈ members.toList))
  | .annotate inner _ => inferInstanceAs (Decidable (j = inner))
  | .prefer winner loser => inferInstanceAs (Decidable (j = winner ∨ j = loser))
  | .marker target? => inferInstanceAs (Decidable (target? = some j))

/-- The edge leads below a bound, and the single pattern survives it. -/
structure Edge.Within (e : Edge) (bound : Nat) : Prop where
  next_lt : e.next < bound
  routes : e.routes = .singleton 0

/-- The node has a single pattern, its edges lead below a bound, and it has no exit unless it
accepts. -/
structure Node.Within (n : Node) (bound : Nat) : Prop where
  edge : ∀ e ∈ n.edges.edges, e.Within bound
  accept : ∀ i ∈ n.accept, i = 0
  exit : n.isAccepting = false → n.exit = ∅

theorem Edge.Within.mono {e : Edge} {a b : Nat} (h : e.Within a) (hle : a ≤ b) : e.Within b :=
  ⟨Nat.lt_of_lt_of_le h.next_lt hle, h.routes⟩

theorem Node.Within.mono {n : Node} {a b : Nat} (h : n.Within a) (hle : a ≤ b) : n.Within b :=
  ⟨fun e he => (h.edge e he).mono hle, h.accept, h.exit⟩

theorem Node.within_dead (bound : Nat) : Node.dead.Within bound :=
  ⟨fun _ he => (nomatch he), fun _ hi => (SortedSet.not_mem_empty _ hi).elim, fun _ => rfl⟩

namespace Arena

variable {g g' g'' : Arena} {i j : Nat}

/-- What is known of the content of a node. -/
def content? (g : Arena) (i : Nat) : Option Node := (g.slots.getD i default).node?

theorem recipe_of_le (h : g.size ≤ i) : g.recipe i = .built := by
  rw [recipe, Array.getD_eq_getD_getElem?, Array.getElem?_eq_none h]
  rfl

theorem content?_of_le (h : g.size ≤ i) : g.content? i = none := by
  rw [content?, Array.getD_eq_getD_getElem?, Array.getElem?_eq_none h]
  rfl

theorem lt_size_of_recipe (h : g.recipe i ≠ .built) : i < g.size :=
  Nat.lt_of_not_le fun hi => h (recipe_of_le hi)

theorem closed_of_lt (h : ∀ i < g.size, g.recipe i ≠ .marker none) (i : Nat) : g.recipe i ≠ .marker none := fun hr =>
  h i (lt_size_of_recipe (by simp [hr])) hr

theorem lt_size_of_content? (h : g.content? i ≠ none) : i < g.size :=
  Nat.lt_of_not_le fun hi => h (content?_of_le hi)

/-- `g'` has the nodes of `g` and perhaps more. -/
structure Grows (g g' : Arena) : Prop where
  size_le : g.size ≤ g'.size
  recipe_eq : ∀ i < g.size, g'.recipe i = g.recipe i
  content_eq : ∀ i, g.recipe i = .built → g.content? i ≠ none → g'.content? i = g.content? i

/-- `g'` has the nodes of `g` and perhaps more, and some markers that are open in `g` are closed. -/
structure Settles (g g' : Arena) : Prop where
  size_le : g.size ≤ g'.size
  recipe_eq : ∀ i < g.size, g.recipe i ≠ .marker none → g'.recipe i = g.recipe i
  marker : ∀ i, g.recipe i = .marker none → ∃ patched?, g'.recipe i = .marker patched?
  content_eq : ∀ i, g.recipe i = .built → g.content? i ≠ none → g'.content? i = g.content? i

theorem Grows.refl (g : Arena) : Grows g g := ⟨Nat.le_refl _, fun _ _ => rfl, fun _ _ _ => rfl⟩

theorem Grows.trans (h : Grows g g') (h' : Grows g' g'') : Grows g g'' where
  size_le := Nat.le_trans h.size_le h'.size_le
  recipe_eq i hi := (h'.recipe_eq i (Nat.lt_of_lt_of_le hi h.size_le)).trans (h.recipe_eq i hi)
  content_eq i hb hc := by
    have hi := lt_size_of_content? hc
    have heq := h.content_eq i hb hc
    rw [h'.content_eq i ((h.recipe_eq i hi).trans hb) (by rwa [heq]), heq]

/-- The node is no union. -/
def Atomic (g : Arena) (i : Nat) : Prop := ∀ members, g.recipe i ≠ .union members

theorem Grows.atomic (h : Grows g g') (hi : i < g.size) (ha : g.Atomic i) : g'.Atomic i := fun members => by
  rw [h.recipe_eq i hi]
  exact ha members

/-- The slot can be added: it names nodes of the arena, and the members of a union are none themselves. -/
structure Fits (g : Arena) (s : Slot) : Prop where
  lt : ∀ j, s.recipe.Names j → j < g.size
  flat : ∀ members, s.recipe = .union members → ∀ m ∈ members, g.Atomic m
  built : s.recipe = .built → s.node? ≠ none
  content : ∀ n, s.node? = some n → n.Within (g.size + 1)

/-- One change to an arena: a slot is added, an open marker is pointed at a node, the content of a node is
noted down, or something that is not about nodes. -/
inductive Write (g : Arena) : Arena → Prop
  | push {s : Slot} : g.Fits s → Write g (g.push s).2
  | close {marker entry : Nat} : g.recipe marker = .marker none → entry < g.size →
    Write g (g.setEntry marker entry)
  | note {i : Nat} {n : Node} : g.recipe i ≠ .built → n.Within g.size → Write g (g.setNode i n)
  | aside {g' : Arena} : g'.slots = g.slots → Write g g'

/-- Some changes, one after the other. -/
def Writes : Arena → Arena → Prop := Relation.ReflTransGen Write

/-- Nothing is known of the nodes that derive from others. -/
def Blank (g : Arena) : Prop := ∀ i, g.recipe i ≠ .built → g.content? i = none

/-- `g'` has the nodes of `g` and perhaps more, but no more open markers, and nothing has been
worked out. -/
structure Builds (g g' : Arena) : Prop extends Grows g g' where
  closed : ∀ i, g.size ≤ i → g'.recipe i ≠ .marker none
  blank : Blank g → Blank g'
  bodies : ∀ i < g.size, g'.bodies.lookup i = g.bodies.lookup i
  writes : Writes g g'

theorem Builds.refl (g : Arena) : Builds g g :=
  ⟨.refl g, fun i hi => by simp [recipe_of_le hi], id, fun _ _ => rfl, .refl⟩

theorem Builds.trans (h : Builds g g') (h' : Builds g' g'') : Builds g g'' where
  toGrows := h.toGrows.trans h'.toGrows
  closed i hi := by
    rcases Nat.lt_or_ge i g'.size with hlt | hge
    · rw [h'.recipe_eq i hlt]
      exact h.closed i hi
    · exact h'.closed i hge
  blank hg := h'.blank (h.blank hg)
  bodies i hi := (h'.bodies i (Nat.lt_of_lt_of_le hi h.size_le)).trans (h.bodies i hi)
  writes := h.writes.trans h'.writes

theorem Grows.settles (h : Grows g g') : Settles g g' where
  size_le := h.size_le
  recipe_eq i hi _ := h.recipe_eq i hi
  marker i hm := ⟨none, (h.recipe_eq i (lt_size_of_recipe (by simp [hm]))).trans hm⟩
  content_eq := h.content_eq

theorem Settles.refl (g : Arena) : Settles g g := (Grows.refl g).settles

/-- What is not an open marker keeps its recipe. -/
theorem Settles.recipe_of (h : Settles g g') {r : Recipe} (hr : g.recipe i = r) (hb : r ≠ .built)
    (hm : r ≠ .marker none) : g'.recipe i = r := by
  subst hr
  exact h.recipe_eq i (lt_size_of_recipe hb) hm

theorem Settles.trans (h : Settles g g') (h' : Settles g' g'') : Settles g g'' where
  size_le := Nat.le_trans h.size_le h'.size_le
  recipe_eq i hi hm := by
    have heq := h.recipe_eq i hi hm
    rw [h'.recipe_eq i (Nat.lt_of_lt_of_le hi h.size_le) (by rwa [heq]), heq]
  marker i hm := by
    obtain ⟨patched?, he⟩ := h.marker i hm
    cases patched? with
    | none => exact h'.marker i he
    | some entry => exact ⟨some entry, h'.recipe_of he (by simp) (by simp)⟩
  content_eq i hb hc := by
    have hi := lt_size_of_content? hc
    have heq := h.content_eq i hb hc
    rw [h'.content_eq i ((h.recipe_eq i hi (by simp [hb])).trans hb) (by rwa [heq]), heq]

theorem Grows.trans_settles (h : Grows g g') (h' : Settles g' g'') : Settles g g'' :=
  h.settles.trans h'

/-- Loop bodies and ambiguity do not matter to the nodes. -/
theorem grows_of_slots (h : g'.slots = g.slots) : Grows g g' := by
  obtain ⟨slots, bodies, ambiguous⟩ := g
  obtain ⟨slots', bodies', ambiguous'⟩ := g'
  obtain rfl : slots' = slots := h
  exact ⟨Nat.le_refl _, fun _ _ => rfl, fun _ _ _ => rfl⟩

section Push

variable (g) (s : Slot)

theorem size_push : (g.push s).2.size = g.size + 1 := Array.size_push _

theorem recipe_push_of_lt (h : i < g.size) : (g.push s).2.recipe i = g.recipe i := by
  have h' : i < g.slots.size := h
  simp [recipe, push, Array.getD_eq_getD_getElem?, Array.getElem?_push, h', Nat.ne_of_lt h']

theorem recipe_push_self : (g.push s).2.recipe g.size = s.recipe := by
  simp [recipe, push, size, Array.getD_eq_getD_getElem?]

theorem content?_push_of_lt (h : i < g.size) : (g.push s).2.content? i = g.content? i := by
  have h' : i < g.slots.size := h
  simp [content?, push, Array.getD_eq_getD_getElem?, Array.getElem?_push, h', Nat.ne_of_lt h']

theorem content?_push_self : (g.push s).2.content? g.size = s.node? := by
  simp [content?, push, size, Array.getD_eq_getD_getElem?]

theorem grows_push : Grows g (g.push s).2 where
  size_le := by
    rw [size_push]
    omega
  recipe_eq _ hi := recipe_push_of_lt g s hi
  content_eq _ _ hc := content?_push_of_lt g s (lt_size_of_content? hc)

/-- A node is either one that was there before, or the one that is added. -/
theorem push_cases (hi : i < (g.push s).2.size) :
    (i < g.size ∧ (g.push s).2.recipe i = g.recipe i ∧ (g.push s).2.content? i = g.content? i) ∨
      i = g.size ∧ (g.push s).2.recipe i = s.recipe ∧ (g.push s).2.content? i = s.node? := by
  rw [size_push] at hi
  rcases Nat.lt_succ_iff_lt_or_eq.1 hi with hi | rfl
  · exact .inl ⟨hi, recipe_push_of_lt g s hi, content?_push_of_lt g s hi⟩
  · exact .inr ⟨rfl, recipe_push_self g s, content?_push_self g s⟩

end Push

/-- Deriving a recipe finds it or adds it. -/
theorem derive_cases (g : Arena) (r : Recipe) :
    (∃ i < g.size, g.recipe i = r ∧ g.derive r = (i, g)) ∨
      (∀ i < g.size, g.recipe i ≠ r) ∧ g.derive r = g.push { recipe := r, node? := none } := by
  simp only [derive]
  cases hi : g.slots.findIdx? (·.holds r.key r) with
  | none =>
    refine .inr ⟨fun i hlt hr => ?_, rfl⟩
    have hnot := Array.findIdx?_eq_none_iff.1 hi g.slots[i] (Array.getElem_mem hlt)
    rw [recipe, Array.getD_eq_getD_getElem?, Array.getElem?_eq_getElem hlt, Option.getD_some] at hr
    exact Bool.false_ne_true (hnot.symm.trans (Slot.holds_iff.2 hr))
  | some i =>
    obtain ⟨hlt, hh, -⟩ := Array.findIdx?_eq_some_iff_getElem.1 hi
    refine .inl ⟨i, hlt, ?_, rfl⟩
    rw [recipe, Array.getD_eq_getD_getElem?, Array.getElem?_eq_getElem hlt, Option.getD_some]
    exact Slot.holds_iff.1 hh

theorem grows_derive (g : Arena) (r : Recipe) : Grows g (g.derive r).2 := by
  rcases derive_cases g r with ⟨i, -, -, h⟩ | ⟨-, h⟩
  · rw [h]
    exact .refl g
  · rw [h]
    exact grows_push ..

theorem Blank.push (hg : Blank g) {s : Slot} (hs : s.recipe ≠ .built → s.node? = none) :
    Blank (g.push s).2 := by
  intro i hi
  rcases Nat.lt_trichotomy i g.size with hlt | rfl | hgt
  · rw [recipe_push_of_lt _ _ hlt] at hi
    rw [content?_push_of_lt _ _ hlt, hg i hi]
  · rw [recipe_push_self] at hi
    rw [content?_push_self, hs hi]
  · exact content?_of_le (by rw [size_push]; exact hgt)

theorem builds_push {s : Slot} (hfits : g.Fits s) (hs : s.recipe ≠ .marker none)
    (hn : s.recipe ≠ .built → s.node? = none) : Builds g (g.push s).2 where
  toGrows := grows_push ..
  blank hg := hg.push hn
  bodies _ _ := rfl
  writes := .single (.push hfits)
  closed i hi := by
    rcases Nat.eq_or_lt_of_le hi with rfl | hlt
    · rwa [recipe_push_self]
    · rw [recipe_of_le (by rw [size_push]; exact hlt)]
      simp

theorem builds_derive {r : Recipe} (hfits : g.Fits { recipe := r, node? := none }) (hr : r ≠ .marker none) :
    Builds g (g.derive r).2 := by
  rcases derive_cases g r with ⟨i, -, -, h⟩ | ⟨-, h⟩
  · rw [h]
    exact .refl g
  · rw [h]
    exact builds_push hfits hr fun _ => rfl

theorem derive_lt (g : Arena) (r : Recipe) : (g.derive r).1 < (g.derive r).2.size := by
  rcases derive_cases g r with ⟨i, hi, -, h⟩ | ⟨-, h⟩
  · rw [h]
    exact hi
  · rw [h, size_push]
    exact Nat.lt_succ_self _

theorem recipe_derive (g : Arena) (r : Recipe) : (g.derive r).2.recipe (g.derive r).1 = r := by
  rcases derive_cases g r with ⟨i, -, hr, h⟩ | ⟨-, h⟩
  · rw [h]
    exact hr
  · rw [h]
    exact recipe_push_self ..


section SetEntry

variable (g) (m entry : Nat)

theorem size_setEntry : (g.setEntry m entry).size = g.size := Array.size_modify ..

theorem recipe_setEntry_of_ne (h : i ≠ m) : (g.setEntry m entry).recipe i = g.recipe i := by
  simp [recipe, setEntry, Array.getD_eq_getD_getElem?, Array.getElem?_modify, h.symm]

theorem recipe_setEntry_self (h : m < g.size) :
    (g.setEntry m entry).recipe m = .marker (some entry) := by
  have h' : m < g.slots.size := h
  simp [recipe, setEntry, Array.getD_eq_getD_getElem?, Array.getElem_modify, h']

theorem atomic_setEntry {g : Arena} {m entry : Nat} (hm : g.recipe m = .marker none) (hi : g.Atomic i) :
    (g.setEntry m entry).Atomic i := by
  intro members
  by_cases him : i = m
  · subst him
    rw [recipe_setEntry_self _ _ _ (lt_size_of_recipe (by simp [hm]))]
    exact Recipe.noConfusion
  · rw [recipe_setEntry_of_ne _ _ _ him]
    exact hi members

theorem content?_setEntry : (g.setEntry m entry).content? i = g.content? i := by
  simp only [content?, setEntry, Array.getD_eq_getD_getElem?, Array.getElem?_modify]
  split
  · cases g.slots[i]? <;> rfl
  · rfl

theorem Blank.setEntry {g : Arena} {m entry : Nat} (hg : Blank g) (h : g.recipe m = .marker none) :
    Blank (g.setEntry m entry) := by
  intro i hi
  rw [content?_setEntry]
  by_cases him : i = m
  · subst him
    exact hg i (by simp [h])
  · rw [recipe_setEntry_of_ne _ _ _ him] at hi
    exact hg i hi

theorem settles_setEntry (h : g.recipe m = .marker none) : Settles g (g.setEntry m entry) where
  size_le := Nat.le_of_eq (size_setEntry ..).symm
  recipe_eq i _ hi := recipe_setEntry_of_ne g m entry fun him => hi (him ▸ h)
  marker i hi := by
    by_cases him : i = m
    · subst him
      exact ⟨_, recipe_setEntry_self g i entry (lt_size_of_recipe (by simp [h]))⟩
    · exact ⟨none, (recipe_setEntry_of_ne g m entry him).trans hi⟩
  content_eq _ _ _ := content?_setEntry ..

end SetEntry

section SetNode

variable (g) (k : Nat) (n : Node)

theorem size_setNode : (g.setNode k n).size = g.size := Array.size_modify ..

theorem recipe_setNode : (g.setNode k n).recipe i = g.recipe i := by
  simp only [recipe, setNode, Array.getD_eq_getD_getElem?, Array.getElem?_modify]
  split
  · cases g.slots[i]? <;> rfl
  · rfl

theorem content?_setNode_of_ne (h : i ≠ k) : (g.setNode k n).content? i = g.content? i := by
  simp [content?, setNode, Array.getD_eq_getD_getElem?, Array.getElem?_modify, h.symm]

theorem content?_setNode_self (h : k < g.size) : (g.setNode k n).content? k = some n := by
  have h' : k < g.slots.size := h
  simp [content?, setNode, Array.getD_eq_getD_getElem?, Array.getElem_modify, h']

theorem grows_setNode (h : g.recipe k ≠ .built) : Grows g (g.setNode k n) where
  size_le := Nat.le_of_eq (size_setNode ..).symm
  recipe_eq _ _ := recipe_setNode ..
  content_eq _ hb _ := content?_setNode_of_ne g k n fun hik => h (hik ▸ hb)

end SetNode

/-- The node `i` derives from `j`. -/
def Operand (g : Arena) (i j : Nat) : Prop := (g.recipe i).Names j

instance (g : Arena) (i j : Nat) : Decidable (g.Operand i j) :=
  inferInstanceAs (Decidable ((g.recipe i).Names j))

theorem Operand.lt_size (h : g.Operand i j) : i < g.size :=
  lt_size_of_recipe fun hb => by simp [Operand, hb, Recipe.Names] at h

theorem operand_member {members : IdSet} (hr : g.recipe i = .union members) (hj : j ∈ members) : g.Operand i j := by
  rwa [Operand, hr]

theorem operand_inner {added : Marks} (hr : g.recipe i = .annotate j added) : g.Operand i j := by
  simp [Operand, hr]

theorem operand_winner {w v : Nat} (hr : g.recipe i = .prefer w v) : g.Operand i w := by
  simp [Operand, hr]

theorem operand_loser {w v : Nat} (hr : g.recipe i = .prefer w v) : g.Operand i v := by
  simp [Operand, hr]

theorem operand_entry (hr : g.recipe i = .marker (some j)) : g.Operand i j := by
  simp [Operand, hr]

end Arena

end Polymatch
