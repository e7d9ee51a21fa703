import Mathlib.Data.Finset.Card
import Mathlib.Data.Finset.Range
import Polymatch.Proofs.Arena.WellFormed
import Polymatch.Proofs.Edges.Lookup

/-! # Paths through an arena

A node stands for the leaves that it derives from: nodes built outright, and open
markers. A path leads to one of them and collects the marks on its way. The loser
of a preference is passed only where the winner does not stop it, and no path
leads through a blocked node. Since no node derives from itself, the nodes that one
derives from bound the depth of every walk through the arena.
-/

namespace Polymatch.Arena

open Relation (TransGen ReflTransGen)

variable {g g' : Arena} {blocked blocked' stops stops' : Nat → Prop} {i j l : Nat} {marks : Marks}

def IsLeaf (g : Arena) (i : Nat) : Prop :=
  g.recipe i = .built ∧ i ≠ nothing ∨ g.recipe i = .marker none

inductive Path (g : Arena) (blocked stops : Nat → Prop) : Nat → Nat → Marks → Prop
  | leaf {i : Nat} : ¬ blocked i → g.IsLeaf i → Path g blocked stops i i ∅
  | member {i m l : Nat} {members : IdSet} {marks : Marks} : ¬ blocked i →
    g.recipe i = .union members → m ∈ members → Path g blocked stops m l marks →
    Path g blocked stops i l marks
  | inner {i j l : Nat} {added marks : Marks} : ¬ blocked i → g.recipe i = .annotate j added →
    Path g blocked stops j l marks → Path g blocked stops i l (marks ∪ added)
  | winner {i w v l : Nat} {marks : Marks} : ¬ blocked i → g.recipe i = .prefer w v →
    Path g blocked stops w l marks → Path g blocked stops i l marks
  | loser {i w v l : Nat} {marks : Marks} : ¬ blocked i → g.recipe i = .prefer w v → ¬ stops w →
    Path g blocked stops v l marks → Path g blocked stops i l marks
  | entry {i e l : Nat} {marks : Marks} : ¬ blocked i → g.recipe i = .marker (some e) →
    Path g blocked stops e l marks → Path g blocked stops i l marks

theorem path_built (h : g.recipe i = .built) :
    Path g blocked stops i l marks ↔ ¬ blocked i ∧ i ≠ nothing ∧ l = i ∧ marks = ∅ := by
  constructor
  · intro hp
    cases hp with
    | leaf hb hl => exact ⟨hb, by simpa [IsLeaf, h] using hl, rfl, rfl⟩
    | member _ hr => simp [h] at hr
    | inner _ hr => simp [h] at hr
    | winner _ hr => simp [h] at hr
    | loser _ hr => simp [h] at hr
    | entry _ hr => simp [h] at hr
  · rintro ⟨hb, hn, rfl, rfl⟩
    exact .leaf hb (.inl ⟨h, hn⟩)

theorem path_open (h : g.recipe i = .marker none) :
    Path g blocked stops i l marks ↔ ¬ blocked i ∧ l = i ∧ marks = ∅ := by
  constructor
  · intro hp
    cases hp with
    | leaf hb => exact ⟨hb, rfl, rfl⟩
    | member _ hr => simp [h] at hr
    | inner _ hr => simp [h] at hr
    | winner _ hr => simp [h] at hr
    | loser _ hr => simp [h] at hr
    | entry _ hr => simp [h] at hr
  · rintro ⟨hb, rfl, rfl⟩
    exact .leaf hb (.inr h)

theorem path_union {members : IdSet} (h : g.recipe i = .union members) :
    Path g blocked stops i l marks ↔
      ¬ blocked i ∧ ∃ m ∈ members, Path g blocked stops m l marks := by
  constructor
  · intro hp
    cases hp with
    | leaf _ hl => simp [IsLeaf, h] at hl
    | member hb hr hm hp =>
      obtain rfl : members = _ := by simpa [h] using hr
      exact ⟨hb, _, hm, hp⟩
    | inner _ hr => simp [h] at hr
    | winner _ hr => simp [h] at hr
    | loser _ hr => simp [h] at hr
    | entry _ hr => simp [h] at hr
  · rintro ⟨hb, m, hm, hp⟩
    exact .member hb h hm hp

theorem path_annotate {added : Marks} (h : g.recipe i = .annotate j added) :
    Path g blocked stops i l marks ↔
      ¬ blocked i ∧ ∃ before, Path g blocked stops j l before ∧ marks = before ∪ added := by
  constructor
  · intro hp
    cases hp with
    | leaf _ hl => simp [IsLeaf, h] at hl
    | member _ hr => simp [h] at hr
    | inner hb hr hp =>
      obtain ⟨rfl, rfl⟩ : j = _ ∧ added = _ := by simpa [h] using hr
      exact ⟨hb, _, hp, rfl⟩
    | winner _ hr => simp [h] at hr
    | loser _ hr => simp [h] at hr
    | entry _ hr => simp [h] at hr
  · rintro ⟨hb, before, hp, rfl⟩
    exact .inner hb h hp

theorem path_prefer {w v : Nat} (h : g.recipe i = .prefer w v) :
    Path g blocked stops i l marks ↔ ¬ blocked i ∧
      (Path g blocked stops w l marks ∨ ¬ stops w ∧ Path g blocked stops v l marks) := by
  constructor
  · intro hp
    cases hp with
    | leaf _ hl => simp [IsLeaf, h] at hl
    | member _ hr => simp [h] at hr
    | inner _ hr => simp [h] at hr
    | winner hb hr hp =>
      obtain ⟨rfl, rfl⟩ : w = _ ∧ v = _ := by simpa [h] using hr
      exact ⟨hb, .inl hp⟩
    | loser hb hr hs hp =>
      obtain ⟨rfl, rfl⟩ : w = _ ∧ v = _ := by simpa [h] using hr
      exact ⟨hb, .inr ⟨hs, hp⟩⟩
    | entry _ hr => simp [h] at hr
  · rintro ⟨hb, hp | ⟨hs, hp⟩⟩
    · exact .winner hb h hp
    · exact .loser hb h hs hp

theorem path_entry (h : g.recipe i = .marker (some j)) :
    Path g blocked stops i l marks ↔ ¬ blocked i ∧ Path g blocked stops j l marks := by
  constructor
  · intro hp
    cases hp with
    | leaf _ hl => simp [IsLeaf, h] at hl
    | member _ hr => simp [h] at hr
    | inner _ hr => simp [h] at hr
    | winner _ hr => simp [h] at hr
    | loser _ hr => simp [h] at hr
    | entry hb hr hp =>
      obtain rfl : j = _ := by simpa [h] using hr
      exact ⟨hb, hp⟩
  · rintro ⟨hb, hp⟩
    exact .entry hb h hp

/-- What leads from a node depends on what leads from the nodes that it derives from. -/
theorem path_congr (hb : blocked i ↔ blocked' i) (hstops : ∀ j, g.Operand i j → (stops j ↔ stops' j))
    (hpaths : ∀ j, g.Operand i j → ∀ l marks, Path g blocked stops j l marks ↔ Path g blocked' stops' j l marks) :
    Path g blocked stops i l marks ↔ Path g blocked' stops' i l marks := by
  cases hr : g.recipe i with
  | built => rw [path_built hr, path_built hr, hb]
  | union members =>
    rw [path_union hr, path_union hr, hb]
    exact and_congr_right' (exists_congr fun m => and_congr_right fun hm => hpaths m (operand_member hr hm) l marks)
  | annotate inner added =>
    rw [path_annotate hr, path_annotate hr, hb]
    exact and_congr_right' (exists_congr fun before => and_congr_left' (hpaths inner (operand_inner hr) l before))
  | prefer w v =>
    rw [path_prefer hr, path_prefer hr, hb, hstops w (operand_winner hr), hpaths w (operand_winner hr),
      hpaths v (operand_loser hr)]
  | marker target? =>
    cases target? with
    | none => rw [path_open hr, path_open hr, hb]
    | some entry => rw [path_entry hr, path_entry hr, hb, hpaths entry (operand_entry hr)]

/-- A path ends at a leaf that is not blocked. -/
theorem Path.ends (hp : Path g blocked stops i l marks) : ¬ blocked l ∧ g.IsLeaf l := by
  induction hp with
  | leaf hb hl => exact ⟨hb, hl⟩
  | member _ _ _ _ ih => exact ih
  | inner _ _ _ ih => exact ih
  | winner _ _ _ ih => exact ih
  | loser _ _ _ _ ih => exact ih
  | entry _ _ _ ih => exact ih

theorem Path.isLeaf (hp : Path g blocked stops i l marks) : g.IsLeaf l := hp.ends.2

theorem Path.not_blocked (hp : Path g blocked stops i l marks) : ¬ blocked l := hp.ends.1

theorem Path.derives (hp : Path g blocked stops i l marks) : ReflTransGen g.Operand i l := by
  induction hp with
  | leaf => exact .refl
  | member _ hr hm _ ih => exact .head (operand_member hr hm) ih
  | inner _ hr _ ih => exact .head (operand_inner hr) ih
  | winner _ hr _ ih => exact .head (operand_winner hr) ih
  | loser _ hr _ _ ih => exact .head (operand_loser hr) ih
  | entry _ hr _ ih => exact .head (operand_entry hr) ih

/-- A leaf that a node derives from, whatever the preferences on the way. -/
def Reaches (g : Arena) (blocked : Nat → Prop) (i l : Nat) : Prop :=
  ∃ marks, Path g blocked (fun _ => False) i l marks

/-- A node leads where the nodes lead that it derives from. -/
theorem Reaches.of_operand (hb : ¬ blocked i) (hop : g.Operand i j) (h : Reaches g blocked j l) :
    Reaches g blocked i l := by
  obtain ⟨marks, hp⟩ := h
  rw [Operand] at hop
  cases hr : g.recipe i with
  | built => simp [hr] at hop
  | union members => exact ⟨_, .member hb hr (by simpa [hr] using hop) hp⟩
  | annotate inner added =>
    obtain rfl : j = inner := by simpa [hr] using hop
    exact ⟨_, .inner hb hr hp⟩
  | prefer w v =>
    rw [hr] at hop
    rcases hop with rfl | rfl
    · exact ⟨_, .winner hb hr hp⟩
    · exact ⟨_, .loser hb hr id hp⟩
  | marker target? =>
    obtain rfl : target? = some j := by simpa [hr] using hop
    exact ⟨_, .entry hb hr hp⟩

theorem reaches_of_operands (hl : g.IsLeaf l) (h : ReflTransGen g.Operand i l) :
    Reaches g (fun _ => False) i l := by
  induction h using ReflTransGen.head_induction_on with
  | refl => exact ⟨_, .leaf id hl⟩
  | head hop _ ih => exact ih.of_operand id hop

/-- Arenas with the same recipes below a bound have the same paths there. -/
theorem Path.transfer {bound : Nat} (hp : Path g blocked stops i l marks)
    (hsame : ∀ i < bound, g'.recipe i = g.recipe i) (hlt : ∀ i j, i < bound → g.Operand i j → j < bound)
    (hstops : ∀ w < bound, stops' w → stops w) (hi : i < bound) : Path g' blocked stops' i l marks := by
  have hrecipe : ∀ {i r}, i < bound → g.recipe i = r → g'.recipe i = r := fun hi hr =>
    (hsame _ hi).trans hr
  induction hp with
  | leaf hb hl => exact .leaf hb (hl.imp (fun h => ⟨hrecipe hi h.1, h.2⟩) (hrecipe hi))
  | member hb hr hm _ ih => exact .member hb (hrecipe hi hr) hm (ih (hlt _ _ hi (operand_member hr hm)))
  | inner hb hr _ ih => exact .inner hb (hrecipe hi hr) (ih (hlt _ _ hi (operand_inner hr)))
  | winner hb hr _ ih => exact .winner hb (hrecipe hi hr) (ih (hlt _ _ hi (operand_winner hr)))
  | loser hb hr hs _ ih =>
    have hw := hlt _ _ hi (operand_winner hr)
    exact .loser hb (hrecipe hi hr) (fun h => hs (hstops _ hw h)) (ih (hlt _ _ hi (operand_loser hr)))
  | entry hb hr _ ih => exact .entry hb (hrecipe hi hr) (ih (hlt _ _ hi (operand_entry hr)))

/-- The nodes of an arena derive from its nodes, and none from itself. -/
structure Founded (g : Arena) : Prop where
  nothing_lt : nothing < g.size
  operand_lt : ∀ i j, g.Operand i j → j < g.size
  acyclic : ∀ i, ¬ TransGen g.Operand i i

theorem WellFormed.founded (hg : g.WellFormed) : g.Founded := ⟨hg.nothing_lt, hg.operand_lt, hg.acyclic⟩

section Rank

open scoped Classical

/-- Number of nodes that a node derives from. -/
noncomputable def rank (g : Arena) (i : Nat) : Nat :=
  ((Finset.range g.size).filter fun j => TransGen g.Operand i j).card

theorem Founded.rank_lt (hg : g.Founded) (h : g.Operand i j) : g.rank j < g.rank i := by
  refine Finset.card_lt_card ⟨fun k hk => ?_, fun hsub => ?_⟩
  · rw [Finset.mem_filter] at hk ⊢
    exact ⟨hk.1, hk.2.head h⟩
  · have hj : j ∈ (Finset.range g.size).filter fun k => TransGen g.Operand i k :=
      Finset.mem_filter.2 ⟨Finset.mem_range.2 (hg.operand_lt i j h), .single h⟩
    exact hg.acyclic j (Finset.mem_filter.1 (hsub hj)).2

theorem Founded.rank_lt_size (hg : g.Founded) (i : Nat) : g.rank i < g.size := by
  obtain ⟨k, hk, hnot⟩ : ∃ k < g.size, ¬ TransGen g.Operand i k := by
    rcases Nat.lt_or_ge i g.size with hi | hi
    · exact ⟨i, hi, hg.acyclic i⟩
    · refine ⟨nothing, hg.nothing_lt, fun h => ?_⟩
      obtain ⟨j, hj, -⟩ := TransGen.head'_iff.1 h
      exact absurd (Operand.lt_size hj) (Nat.not_lt.2 hi)
  rw [← Finset.card_range g.size]
  refine Finset.card_lt_card ⟨Finset.filter_subset .., fun hsub => ?_⟩
  exact hnot (Finset.mem_filter.1 (hsub (Finset.mem_range.2 hk))).2

theorem WellFormed.rank_lt (hg : g.WellFormed) (h : g.Operand i j) : g.rank j < g.rank i := hg.founded.rank_lt h

theorem WellFormed.rank_lt_size (hg : g.WellFormed) (i : Nat) : g.rank i < g.size := hg.founded.rank_lt_size i

theorem Grows.rank_eq (hgrow : Grows g g') (hg : g.WellFormed) (hi : i < g.size) :
    g'.rank i = g.rank i := by
  refine congrArg Finset.card (Finset.ext fun j => ?_)
  rw [Finset.mem_filter, Finset.mem_filter, Finset.mem_range, Finset.mem_range]
  constructor
  · rintro ⟨-, hij⟩
    have hij := hgrow.transGen hg.operand_lt hi hij
    obtain ⟨k, -, hk⟩ := TransGen.tail'_iff.1 hij
    exact ⟨hg.operand_lt k j hk, hij⟩
  · rintro ⟨hj, hij⟩
    exact ⟨Nat.lt_of_lt_of_le hj hgrow.size_le, hgrow.derives hij⟩

/-- Where a walk has come to a node from the busy ones, its operands come next. -/
theorem Founded.operand_ready (hf : g.Founded) {busy : Nat → Prop} {bound : Nat} (hrank : g.rank i ≤ bound)
    (hbusy : ∀ b, busy b → b = i ∨ TransGen g.Operand b i) (hop : g.Operand i j) :
    g.rank j < bound ∧ j < g.size ∧ ∀ b, busy b → TransGen g.Operand b j := by
  refine ⟨Nat.lt_of_lt_of_le (hf.rank_lt hop) hrank, hf.operand_lt i j hop, fun b hb => ?_⟩
  rcases hbusy b hb with rfl | hbi
  · exact .single hop
  · exact hbi.tail hop

/-- What holds of a node if it holds of all that it derives from holds of every node. -/
@[elab_as_elim]
theorem Founded.induct (hg : g.Founded) {motive : Nat → Prop}
    (step : ∀ i, (∀ j, g.Operand i j → motive j) → motive i) (i : Nat) : motive i := by
  induction hr : g.rank i using Nat.strongRecOn generalizing i with
  | ind r ih =>
    subst hr
    exact step i fun j hj => ih _ (hg.rank_lt hj) j rfl

end Rank

end Polymatch.Arena
