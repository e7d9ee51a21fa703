import Mathlib.Data.List.Forall2
import Polymatch.Proofs.Edges.Sweep

/-! # Splitting two maps

Splitting cuts two maps at the boundaries of both. No ordinal lies in two pieces,
and a piece says of its ordinals what its sides say.
-/

namespace Polymatch.EdgeMap

open Edge (Says)

variable {l r : EdgeMap} {x : Nat}

theorem groups_ascending (m : EdgeMap) : (m.edges.map Edge.group).Pairwise (·.hi ≤ ·.lo) :=
  List.pairwise_map.2 (m.canonical.ascending.imp And.left)

theorem groups_nonempty (m : EdgeMap) : ∀ i ∈ m.edges.map Edge.group, i.lo < i.hi := by
  intro i hi
  obtain ⟨e, he, rfl⟩ := List.mem_map.1 hi
  exact m.canonical.nonempty e he

theorem covers_groups_eq_false :
    Interval.covers (r.edges.map Edge.group) x = false ↔ r.link? x = none := by
  rw [link?_eq_none, ← Bool.not_eq_true, Interval.covers_iff]
  constructor
  · rintro h k ⟨e, he, hx, -⟩
    exact h ⟨e.group, List.mem_map_of_mem he, Edge.contains_iff.1 hx⟩
  · rintro h ⟨i, hi, hx⟩
    obtain ⟨e, he, rfl⟩ := List.mem_map.1 hi
    exact h e.link ⟨e, he, Edge.contains_iff.2 hx, rfl⟩

theorem mem_uncovered {e : Edge} : e ∈ uncovered l r ↔
    ∃ a ∈ l.edges, ∃ i ∈ Interval.gaps a.lo a.hi (r.edges.map Edge.group), a.onGroup i = e := by
  simp [uncovered]

/-- The pieces of one side hold its ordinals outside the other side. -/
theorem says_uncovered {k : Link} :
    Says (uncovered l r) x k ↔ l.link? x = some k ∧ r.link? x = none := by
  have hgap : ∀ a : Edge, a.contains x = true ∧ r.link? x = none ↔
      ∃ i ∈ Interval.gaps a.lo a.hi (r.edges.map Edge.group), i.lo ≤ x ∧ x < i.hi := by
    intro a
    rw [← Interval.covers_iff, Interval.covers_gaps r.groups_ascending r.groups_nonempty,
      covers_groups_eq_false, Edge.contains_iff, and_assoc]
  rw [link?_eq_some]
  constructor
  · rintro ⟨e, he, hx, rfl⟩
    obtain ⟨a, ha, i, hi, rfl⟩ := mem_uncovered.1 he
    obtain ⟨hax, hr⟩ := (hgap a).2 ⟨i, hi, Edge.contains_iff.1 hx⟩
    exact ⟨⟨a, ha, hax, rfl⟩, hr⟩
  · rintro ⟨⟨a, ha, hax, rfl⟩, hr⟩
    obtain ⟨i, hi, hx⟩ := (hgap a).1 ⟨hax, hr⟩
    exact ⟨_, mem_uncovered.2 ⟨a, ha, i, hi, rfl⟩, Edge.contains_iff.2 hx, rfl⟩

theorem mem_shared {s : SharedGroup} : s ∈ shared l r ↔
    ∃ a ∈ l.edges, ∃ b ∈ r.edges, max a.lo b.lo < min a.hi b.hi ∧
      s = ⟨⟨max a.lo b.lo, min a.hi b.hi⟩, a, b⟩ := by
  simp only [shared, List.mem_flatMap, List.mem_filterMap]
  constructor
  · rintro ⟨a, ha, b, hb, h⟩
    split at h <;> simp at h
    exact ⟨a, ha, b, hb, ‹_›, h.symm⟩
  · rintro ⟨a, ha, b, hb, h, rfl⟩
    exact ⟨a, ha, b, hb, by rw [if_pos h]⟩

/-- A shared piece lies in the groups of both of its sides. -/
theorem contains_of_mem_shared {s : SharedGroup} (hs : s ∈ shared l r)
    (hx : s.group.contains x = true) : s.left.contains x = true ∧ s.right.contains x = true := by
  obtain ⟨a, -, b, -, -, rfl⟩ := mem_shared.1 hs
  simp only [Interval.contains_iff, Edge.contains_iff] at hx ⊢
  omega

/-- The shared pieces hold the ordinals that both sides bind. -/
theorem exists_shared {a b : Link} :
    (∃ s ∈ shared l r, s.group.contains x = true ∧ s.left.link = a ∧ s.right.link = b) ↔
      l.link? x = some a ∧ r.link? x = some b := by
  simp only [link?_eq_some]
  constructor
  · rintro ⟨s, hs, hx, rfl, rfl⟩
    obtain ⟨hl, hr⟩ := contains_of_mem_shared hs hx
    obtain ⟨a, ha, b, hb, -, rfl⟩ := mem_shared.1 hs
    exact ⟨⟨a, ha, hl, rfl⟩, b, hb, hr, rfl⟩
  · rintro ⟨⟨a, ha, hl, rfl⟩, b, hb, hr, rfl⟩
    simp only [Edge.contains_iff] at hl hr
    refine ⟨_, mem_shared.2 ⟨a, ha, b, hb, by omega, rfl⟩, ?_, rfl, rfl⟩
    rw [Interval.contains_iff]
    simp only
    omega

theorem lt_of_mem_uncovered {e : Edge} (h : e ∈ uncovered l r) : e.lo < e.hi := by
  obtain ⟨a, -, i, hi, rfl⟩ := mem_uncovered.1 h
  exact (Interval.bounds_of_mem_gaps hi).2.1

theorem lt_of_mem_shared {s : SharedGroup} (h : s ∈ shared l r) : s.group.lo < s.group.hi := by
  obtain ⟨a, -, b, -, hlt, rfl⟩ := mem_shared.1 h
  exact hlt

theorem uncovered_apart : (uncovered l r).Pairwise Edge.Apart := by
  rw [uncovered, List.pairwise_flatMap]
  refine ⟨fun a _ => ?_, l.pairwise_apart.imp fun {a b} hab e he f hf => ?_⟩
  · rw [List.pairwise_map]
    exact (Interval.gaps_ascending r.groups_ascending r.groups_nonempty).imp Interval.apart_of_le
  · obtain ⟨i, hi, rfl⟩ := List.mem_map.1 he
    obtain ⟨j, hj, rfl⟩ := List.mem_map.1 hf
    have hi := Interval.bounds_of_mem_gaps hi
    have hj := Interval.bounds_of_mem_gaps hj
    intro x hix hjx
    refine hab x ?_ ?_
    all_goals
      simp only [Edge.group, Edge.onGroup, Interval.contains_iff] at *
      omega

theorem shared_apart : (shared l r).Pairwise fun s t => s.group.Apart t.group := by
  rw [shared, List.pairwise_flatMap]
  constructor
  · intro a _
    rw [List.pairwise_filterMap]
    refine r.pairwise_apart.imp fun {b c} hbc s hs t ht x hsx htx => hbc x ?_ ?_
    all_goals
      split at hs <;> simp at hs
      split at ht <;> simp at ht
      subst hs ht
      simp only [Edge.group, Interval.contains_iff] at *
      omega
  · refine l.pairwise_apart.imp fun {a c} hac s hs t ht x hsx htx => hac x ?_ ?_
    all_goals
      obtain ⟨b, -, hs⟩ := List.mem_filterMap.1 hs
      obtain ⟨d, -, ht⟩ := List.mem_filterMap.1 ht
      split at hs <;> simp at hs
      split at ht <;> simp at ht
      subst hs ht
      simp only [Edge.group, Interval.contains_iff] at *
      omega

/-- The pieces of the left side hold its ordinals outside the right side. -/
theorem says_leftOnly {k : Link} :
    Says (split l r).leftOnly x k ↔ l.link? x = some k ∧ r.link? x = none := by
  rw [split_eq, says_uncovered]

theorem says_rightOnly {k : Link} :
    Says (split l r).rightOnly x k ↔ r.link? x = some k ∧ l.link? x = none := by
  rw [split_eq, says_uncovered]

/-- The shared pieces hold the ordinals of both sides. -/
theorem exists_both {a b : Link} :
    (∃ s ∈ (split l r).both, s.group.contains x = true ∧ s.left.link = a ∧ s.right.link = b) ↔
      l.link? x = some a ∧ r.link? x = some b := by
  rw [split_eq, exists_shared]

/-- A piece of one side is an edge of that side on another group. -/
theorem exists_of_mem_leftOnly {e : Edge} (h : e ∈ (split l r).leftOnly) : ∃ a ∈ l.edges, e.link = a.link := by
  rw [split_eq] at h
  obtain ⟨a, ha, i, -, rfl⟩ := mem_uncovered.1 h
  exact ⟨a, ha, rfl⟩

theorem exists_of_mem_rightOnly {e : Edge} (h : e ∈ (split l r).rightOnly) : ∃ b ∈ r.edges, e.link = b.link := by
  rw [split_eq] at h
  obtain ⟨b, hb, i, -, rfl⟩ := mem_uncovered.1 h
  exact ⟨b, hb, rfl⟩

theorem sides_of_mem_both {s : SharedGroup} (h : s ∈ (split l r).both) : s.left ∈ l.edges ∧ s.right ∈ r.edges := by
  rw [split_eq] at h
  obtain ⟨a, ha, b, hb, -, rfl⟩ := mem_shared.1 h
  exact ⟨ha, hb⟩

theorem lt_of_mem_leftOnly {e : Edge} (h : e ∈ (split l r).leftOnly) : e.lo < e.hi := by
  rw [split_eq] at h
  exact lt_of_mem_uncovered h

theorem lt_of_mem_rightOnly {e : Edge} (h : e ∈ (split l r).rightOnly) : e.lo < e.hi := by
  rw [split_eq] at h
  exact lt_of_mem_uncovered h

theorem lt_of_mem_both {s : SharedGroup} (h : s ∈ (split l r).both) : s.group.lo < s.group.hi := by
  rw [split_eq] at h
  exact lt_of_mem_shared h

/-- An ordinal lies in at most one piece of a split. -/
theorem split_apart : ((split l r).leftOnly.map Edge.group ++ (split l r).rightOnly.map Edge.group ++
    (split l r).both.map SharedGroup.group).Pairwise Interval.Apart := by
  have hedge : ∀ {m n : EdgeMap} {i : Interval} {x : Nat}, i ∈ (uncovered m n).map Edge.group →
      i.contains x = true → (∃ k, m.link? x = some k) ∧ n.link? x = none := by
    intro m n i x hi hx
    obtain ⟨e, he, rfl⟩ := List.mem_map.1 hi
    obtain ⟨hk, hn⟩ := says_uncovered.1 ⟨e, he, hx, rfl⟩
    exact ⟨⟨_, hk⟩, hn⟩
  have hboth : ∀ {i : Interval} {x : Nat}, i ∈ (shared l r).map SharedGroup.group →
      i.contains x = true → (∃ a, l.link? x = some a) ∧ ∃ b, r.link? x = some b := by
    intro i x hi hx
    obtain ⟨s, hs, rfl⟩ := List.mem_map.1 hi
    obtain ⟨ha, hb⟩ := exists_shared.1 ⟨s, hs, hx, rfl, rfl⟩
    exact ⟨⟨_, ha⟩, _, hb⟩
  simp only [split_eq, List.pairwise_append, List.mem_append]
  refine ⟨⟨Edge.pairwise_apart_iff.1 uncovered_apart, Edge.pairwise_apart_iff.1 uncovered_apart, ?_⟩,
    List.pairwise_map.2 shared_apart, ?_⟩
  · intro i hi j hj x hix hjx
    obtain ⟨⟨k, hk⟩, -⟩ := hedge hi hix
    simp [(hedge hj hjx).2] at hk
  · rintro i (hi | hi) j hj x hix hjx
    · obtain ⟨-, b, hb⟩ := hboth hj hjx
      simp [(hedge hi hix).2] at hb
    · obtain ⟨⟨a, ha⟩, -⟩ := hboth hj hjx
      simp [(hedge hi hix).2] at ha

theorem exists_right_of_forall₂ {α β : Type} {R : α → β → Prop} {as : List α} {bs : List β}
    (h : List.Forall₂ R as bs) {a : α} (ha : a ∈ as) : ∃ b ∈ bs, R a b := by
  induction h with
  | nil => cases ha
  | cons hab _ ih =>
    rcases List.mem_cons.1 ha with rfl | ha
    · exact ⟨_, List.mem_cons_self, hab⟩
    · obtain ⟨b, hb, hab⟩ := ih ha
      exact ⟨b, List.mem_cons_of_mem _ hb, hab⟩

theorem exists_left_of_forall₂ {α β : Type} {R : α → β → Prop} {as : List α} {bs : List β}
    (h : List.Forall₂ R as bs) {b : β} (hb : b ∈ bs) : ∃ a ∈ as, R a b := by
  obtain ⟨a, ha, hab⟩ := exists_right_of_forall₂ h.flip hb
  exact ⟨a, ha, hab⟩

theorem map_eq_of_forall₂ {α β γ : Type} {R : α → β → Prop} {f : α → γ} {f' : β → γ}
    {as : List α} {bs : List β} (hR : ∀ a b, R a b → f' b = f a) (h : List.Forall₂ R as bs) :
    bs.map f' = as.map f := by
  induction h with
  | nil => rfl
  | cons hab _ ih => rw [List.map_cons, List.map_cons, ih, hR _ _ hab]

/-- What a map says where two sides say something or nothing, if `both` links what they say
together. -/
def Joined (both : Link → Link → Link → Prop) (m : EdgeMap) (x : Nat) :
    Option Link → Option Link → Prop
  | none, none => m.link? x = none
  | some a, none => m.link? x = some a
  | none, some b => m.link? x = some b
  | some a, some b => ∃ k, m.link? x = some k ∧ both a b k

/-- The pieces of a split, with edges in place of the shared groups, are a map again. -/
theorem joined_split {both : Link → Link → Link → Prop} {edges : List Edge}
    (h : List.Forall₂ (fun s e => e.group = s.group ∧ both s.left.link s.right.link e.link)
      (split l r).both edges) (x : Nat) :
    Joined both (ofDisjoint ((split l r).leftOnly ++ (split l r).rightOnly ++ edges)) x (l.link? x)
      (r.link? x) := by
  have hgroups : edges.map Edge.group = (split l r).both.map SharedGroup.group :=
    map_eq_of_forall₂ (fun _ _ hse => hse.1) h
  have hapart : ((split l r).leftOnly ++ (split l r).rightOnly ++ edges).Pairwise Edge.Apart := by
    rw [Edge.pairwise_apart_iff, List.map_append, List.map_append, hgroups]
    exact split_apart
  have hlink : ∀ k, (ofDisjoint ((split l r).leftOnly ++ (split l r).rightOnly ++ edges)).link? x = some k ↔
      (l.link? x = some k ∧ r.link? x = none ∨ r.link? x = some k ∧ l.link? x = none) ∨ Says edges x k := by
    intro k
    rw [link?_ofDisjoint hapart, Edge.says_append, Edge.says_append]
    exact or_congr_left (or_congr says_leftOnly says_rightOnly)
  have hedge : ∀ {k}, Says edges x k → ∃ a b, l.link? x = some a ∧ r.link? x = some b ∧ both a b k := by
    rintro k ⟨e, he, hx, rfl⟩
    obtain ⟨s, hs, hg, hb⟩ := exists_left_of_forall₂ h he
    have hsx : s.group.contains x = true := hg ▸ hx
    obtain ⟨ha, hb'⟩ := exists_both.1 ⟨s, hs, hsx, rfl, rfl⟩
    exact ⟨_, _, ha, hb', hb⟩
  cases hl : l.link? x <;> cases hr : r.link? x
  case none.none =>
    refine Option.eq_none_iff_forall_ne_some.2 fun k hk => ?_
    rcases (hlink k).1 hk with (⟨hk, -⟩ | ⟨hk, -⟩) | hk
    · simp [hl] at hk
    · simp [hr] at hk
    · obtain ⟨a, b, ha, -, -⟩ := hedge hk
      simp [hl] at ha
  case some.none a => exact (hlink a).2 (.inl (.inl ⟨hl, hr⟩))
  case none.some b => exact (hlink b).2 (.inl (.inr ⟨hr, hl⟩))
  case some.some a b =>
    obtain ⟨s, hs, hx, rfl, rfl⟩ := exists_both.2 ⟨hl, hr⟩
    obtain ⟨e, he, hg, hb⟩ := exists_right_of_forall₂ h hs
    refine ⟨e.link, (hlink _).2 (.inr ⟨e, he, ?_, rfl⟩), hb⟩
    rw [Edge.contains, hg]
    exact hx

end Polymatch.EdgeMap
