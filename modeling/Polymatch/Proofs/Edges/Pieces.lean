import Polymatch.Proofs.Edges.Split

/-! # The pieces of a split

The pieces of a split tile what two maps bind. An ordinal lies in one piece of the part
that the sides call for and in no other, and its piece carries the edges that the sides
take on it. Edges put on all the pieces make up a map again.
-/

namespace Polymatch

/-- What the pieces that hold an ordinal say: at most one thing, if they are apart. -/
theorem map_filter_contains_eq {α β : Type} {pieces : List α} {group : α → Interval} {say : α → β} {x : Nat}
    {said? : Option β} (hapart : (pieces.map group).Pairwise Interval.Apart)
    (hsaid : ∀ b, (∃ p ∈ pieces, (group p).contains x = true ∧ say p = b) ↔ said? = some b) :
    (pieces.filter fun p => (group p).contains x).map say = said?.toList := by
  induction pieces with
  | nil =>
    obtain rfl : said? = none := Option.eq_none_iff_forall_ne_some.2 fun b hb => by simpa using (hsaid b).2 hb
    rfl
  | cons p pieces ih =>
    obtain ⟨hp, hrest⟩ := List.pairwise_cons.1 hapart
    cases hx : (group p).contains x with
    | true =>
      -- every other piece is apart from the one that holds the ordinal
      have hnone : (pieces.filter fun q => (group q).contains x) = [] :=
        List.filter_eq_nil_iff.2 fun q hq hqx => hp _ (List.mem_map_of_mem hq) x hx hqx
      obtain rfl : said? = some (say p) := (hsaid _).1 ⟨p, List.mem_cons_self, hx, rfl⟩
      simp only [List.filter_cons, hx, if_true, hnone]
      rfl
    | false =>
      have hskip : ∀ b, (∃ q ∈ p :: pieces, (group q).contains x = true ∧ say q = b) ↔
          ∃ q ∈ pieces, (group q).contains x = true ∧ say q = b := fun b => by
        rw [List.exists_mem_cons_iff, hx]
        exact or_iff_right fun h => Bool.false_ne_true h.1
      simp only [List.filter_cons, hx, Bool.false_eq_true, if_false]
      exact ih hrest fun b => (hskip b).symm.trans (hsaid b)

namespace EdgeSplit

variable (s : EdgeSplit) (x : Nat)

/-- The groups of all pieces. -/
def groups : List Interval :=
  s.leftOnly.map Edge.group ++ s.rightOnly.map Edge.group ++ s.both.map SharedGroup.group

/-- What the pieces of the left side say of an ordinal. -/
def leftAt : List Link := (s.leftOnly.filter (·.contains x)).map Edge.link

/-- What the pieces of the right side say of an ordinal. -/
def rightAt : List Link := (s.rightOnly.filter (·.contains x)).map Edge.link

/-- The edges of both sides on the shared pieces that hold an ordinal. -/
def bothAt : List (Edge × Edge) := (s.both.filter (·.group.contains x)).map fun g => (g.left, g.right)

/-- An ordinal on which the sides take the given edges lies in one piece of the part that these call
for, and the piece carries them. -/
def Parts : Option Edge → Option Edge → Prop
  | none, none => s.leftAt x = [] ∧ s.rightAt x = [] ∧ s.bothAt x = []
  | some a, none => s.leftAt x = [a.link] ∧ s.rightAt x = [] ∧ s.bothAt x = []
  | none, some b => s.leftAt x = [] ∧ s.rightAt x = [b.link] ∧ s.bothAt x = []
  | some a, some b => s.leftAt x = [] ∧ s.rightAt x = [] ∧ s.bothAt x = [(a, b)]

end EdgeSplit

namespace EdgeMap

open Edge (Says)

variable {l r : EdgeMap} {x : Nat}

/-- The pieces tile what two maps bind, and there are few of them. -/
structure Tiles (l r : EdgeMap) (s : EdgeSplit) : Prop where
  few : s.size ≤ 2 * (l.size + r.size) + 1
  nonempty : ∀ i ∈ s.groups, i.lo < i.hi
  apart : s.groups.Pairwise Interval.Apart
  parts : ∀ x, s.Parts x (l.find? x) (r.find? x)

/-- Every piece that is cut off brings the pass closer to its end. -/
theorem size_sweep_le (l r : List Uncut) : (sweep l r).size ≤ Uncut.bound l r := by
  fun_induction sweep l r with
  | case1 a l b r _ hlt hi ih =>
    rw [EdgeSplit.size_consLeft]
    exact Nat.lt_of_le_of_lt ih hlt
  | case2 a l b r _ _ hlt hi ih =>
    rw [EdgeSplit.size_consRight]
    exact Nat.lt_of_le_of_lt ih hlt
  | case3 a l b r _ _ hlt hi ih =>
    rw [EdgeSplit.size_consBoth]
    exact Nat.lt_of_le_of_lt ih hlt
  | case4 l r _ =>
    simp only [EdgeSplit.size, List.length_map, List.length_nil, Uncut.bound]
    omega

theorem size_split_le (l r : EdgeMap) : (split l r).size ≤ 2 * (l.size + r.size) + 1 := by
  have hle := size_sweep_le (l.edges.map .whole) (r.edges.map .whole)
  have hoffset := Uncut.offset_le_one (l.edges.map .whole) (r.edges.map .whole)
  rw [Uncut.bound, List.length_map, List.length_map] at hle
  rw [split, size, size]
  omega

theorem lt_of_mem_groups {i : Interval} (h : i ∈ (split l r).groups) : i.lo < i.hi := by
  simp only [EdgeSplit.groups, List.mem_append, List.mem_map] at h
  rcases h with (⟨e, he, rfl⟩ | ⟨e, he, rfl⟩) | ⟨s, hs, rfl⟩
  · exact lt_of_mem_leftOnly he
  · exact lt_of_mem_rightOnly he
  · exact lt_of_mem_both hs

theorem groups_apart : (split l r).groups.Pairwise Interval.Apart := split_apart

/-- On its ordinals, a shared piece carries the edges that both maps take. -/
theorem exists_both_edges {a b : Edge} :
    (∃ s ∈ (split l r).both, s.group.contains x = true ∧ (s.left, s.right) = (a, b)) ↔
      l.find? x = some a ∧ r.find? x = some b := by
  rw [split_eq, find?_eq_some, find?_eq_some]
  constructor
  · rintro ⟨s, hs, hx, heq⟩
    obtain ⟨hl, hr⟩ := contains_of_mem_shared hs hx
    obtain ⟨a, ha, b, hb, -, rfl⟩ := mem_shared.1 hs
    obtain ⟨rfl, rfl⟩ := Prod.mk.inj heq
    exact ⟨⟨ha, hl⟩, hb, hr⟩
  · rintro ⟨⟨ha, hl⟩, hb, hr⟩
    rw [Edge.contains_iff] at hl hr
    refine ⟨_, mem_shared.2 ⟨a, ha, b, hb, by omega, rfl⟩, Interval.contains_iff.2 ?_, rfl⟩
    simp only
    omega

theorem leftAt_split (l r : EdgeMap) (x : Nat) :
    (split l r).leftAt x = (if r.link? x = none then l.link? x else none).toList := by
  have hapart := (List.pairwise_append.1 (List.pairwise_append.1 (groups_apart (l := l) (r := r))).1).1
  refine map_filter_contains_eq hapart fun k => says_leftOnly.trans ?_
  by_cases hr : r.link? x = none <;> simp [hr]

theorem rightAt_split (l r : EdgeMap) (x : Nat) :
    (split l r).rightAt x = (if l.link? x = none then r.link? x else none).toList := by
  have hapart := (List.pairwise_append.1 (List.pairwise_append.1 (groups_apart (l := l) (r := r))).1).2.1
  refine map_filter_contains_eq hapart fun k => says_rightOnly.trans ?_
  by_cases hl : l.link? x = none <;> simp [hl]

theorem bothAt_split (l r : EdgeMap) (x : Nat) :
    (split l r).bothAt x = ((l.find? x).bind fun a => (r.find? x).map fun b => (a, b)).toList := by
  have hapart := (List.pairwise_append.1 (groups_apart (l := l) (r := r))).2.1
  refine map_filter_contains_eq hapart fun ⟨a, b⟩ => exists_both_edges.trans ?_
  cases l.find? x <;> cases r.find? x <;> simp

theorem parts_split (l r : EdgeMap) (x : Nat) : (split l r).Parts x (l.find? x) (r.find? x) := by
  have hleft := leftAt_split l r x
  have hright := rightAt_split l r x
  have hboth := bothAt_split l r x
  simp only [link?] at hleft hright
  cases hl : l.find? x <;> cases hr : r.find? x <;> simp only [hl, hr] at hleft hright hboth <;>
    exact ⟨hleft, hright, hboth⟩

theorem tiles_split (l r : EdgeMap) : Tiles l r (split l r) where
  few := size_split_le l r
  nonempty _ := lt_of_mem_groups
  apart := groups_apart
  parts := parts_split l r

/-- Edges put on all the pieces, in any order, make up a map. -/
theorem ofEdges_of_groups_perm {edges : List Edge} (h : (edges.map Edge.group).Perm (split l r).groups) :
    ∃ m, ofEdges edges = .ok m ∧ ∀ x k, m.link? x = some k ↔ Says edges x k := by
  have hapart : edges.Pairwise Edge.Apart :=
    Edge.pairwise_apart_iff.2 (groups_apart.perm h.symm fun hij => hij.symm)
  obtain ⟨m, hm⟩ := ofEdges_of_apart hapart
  exact ⟨m, hm, fun _ _ => link?_ofEdges hm⟩

end EdgeMap

end Polymatch
