import Polymatch.Proofs.Interval.Canonical
import Polymatch.Proofs.Pattern.Clipping

/-! # Orderly patterns

In the patterns that come from texts and expressions, classes and counts are in normal
form, and the label of a group is the path to it: in every group, and outside of all
groups, the groups directly inside are numbered in the order in which they are declared.
Such labels ascend, so the slots follow the declarations, and nothing can go wrong when
the pattern is compiled.
-/

namespace Polymatch

variable {path : Label} {first middle next last : Nat} {labels others : List Label}

/-- Ascending labels below `path`, from that group there on whose number is `first` and in front of
the one whose number is `next`. -/
structure Label.Ascending (path : Label) (first next : Nat) (labels : List Label) : Prop where
  le : first ≤ next
  ascending : labels.Pairwise (· < ·)
  inside : ∀ label ∈ labels, ∃ k rest, first ≤ k ∧ k < next ∧ label = path ++ k :: rest

namespace Label.Ascending

theorem nil (path : Label) (first : Nat) : Ascending path first first [] :=
  ⟨Nat.le_refl first, .nil, List.forall_mem_nil _⟩

theorem append (h : Ascending path first middle labels) (h' : Ascending path middle next others) :
    Ascending path first next (labels ++ others) where
  le := Nat.le_trans h.le h'.le
  ascending := by
    refine List.pairwise_append.2 ⟨h.ascending, h'.ascending, fun label hl other ho => ?_⟩
    obtain ⟨k, rest, -, hk, rfl⟩ := h.inside label hl
    obtain ⟨k', rest', hk', -, rfl⟩ := h'.inside other ho
    exact List.append_left_lt (List.cons_lt_cons_iff.2 (.inl (Nat.lt_of_lt_of_le hk hk')))
  inside := by
    refine List.forall_mem_append.2 ⟨fun label hl => ?_, fun label hl => ?_⟩
    · obtain ⟨k, rest, hle, hlt, hlabel⟩ := h.inside label hl
      exact ⟨k, rest, hle, Nat.lt_of_lt_of_le hlt h'.le, hlabel⟩
    · obtain ⟨k, rest, hle, hlt, hlabel⟩ := h'.inside label hl
      exact ⟨k, rest, Nat.le_trans h.le hle, hlt, hlabel⟩

/-- The label of a group comes before those of the groups inside. -/
theorem group (h : Ascending (path ++ [first]) 0 last labels) :
    Ascending path first (first + 1) ((path ++ [first]) :: labels) where
  le := Nat.le_succ first
  ascending := by
    refine List.pairwise_cons.2 ⟨fun label hl => ?_, h.ascending⟩
    obtain ⟨k, rest, -, -, rfl⟩ := h.inside label hl
    rw [List.append_assoc]
    exact List.append_left_lt (List.cons_lt_cons_iff.2 (.inr ⟨rfl, List.nil_lt_cons k rest⟩))
  inside := by
    refine List.forall_mem_cons.2 ⟨⟨first, [], Nat.le_refl first, Nat.lt_succ_self first, rfl⟩, fun label hl => ?_⟩
    obtain ⟨k, rest, -, -, rfl⟩ := h.inside label hl
    exact ⟨first, k :: rest, Nat.le_refl first, Nat.lt_succ_self first, List.append_assoc ..⟩

end Label.Ascending

namespace Layout

/-- Among ascending labels, as many are below the one at a position as stand in front of it. -/
theorem countP_lt_getElem (h : labels.Pairwise (· < ·)) {i : Nat} (hi : i < labels.length) :
    labels.countP (· < labels[i]) = i := by
  induction labels generalizing i with
  | nil => exact absurd hi (Nat.not_lt_zero i)
  | cons label labels ih =>
    obtain ⟨hlt, hrest⟩ := List.pairwise_cons.1 h
    cases i with
    | zero =>
      rw [List.getElem_cons_zero, List.countP_eq_zero]
      refine List.forall_mem_cons.2 ⟨by simp, fun other ho => ?_⟩
      simpa using List.lt_asymm (hlt other ho)
    | succ i =>
      have hmem : label < labels.get ⟨i, Nat.lt_of_succ_lt_succ hi⟩ := hlt _ (List.get_mem ..)
      rw [List.getElem_cons_succ, List.countP_cons_of_pos (by simpa using hmem), ih hrest]

/-- With ascending labels, the slots follow the order of declaration. -/
theorem slot?_of_ascending (h : labels.Pairwise (· < ·)) {i : Nat} (hi : i < labels.length) :
    slot? ⟨labels, 0⟩ (i + 1) = some i := by
  rw [slot?, label?, if_neg (Nat.succ_ne_zero i), Nat.add_sub_cancel, List.getElem?_eq_getElem hi,
    Option.map_some, slotOf, countP_lt_getElem h hi, Nat.zero_add]

end Layout

namespace Pattern

mutual

/-- The lists of counts of the pattern. -/
def countings : Pattern → List (List Nat)
  | symbols _ => []
  | sequence items => allCountings items
  | select branches => allCountings branches
  | counted body counts => counts :: body.countings
  | loop body _ _ => body.countings
  | optional body => body.countings
  | group _ body => body.countings

def allCountings : List Pattern → List (List Nat)
  | [] => []
  | p :: rest => p.countings ++ allCountings rest

end

mutual

/-- Number of groups outside of all other groups of the pattern. -/
def width : Pattern → Nat
  | symbols _ => 0
  | sequence items => allWidth items
  | select branches => allWidth branches
  | counted body _ => body.width
  | loop body _ _ => body.width
  | optional body => body.width
  | group _ _ => 1

def allWidth : List Pattern → Nat
  | [] => 0
  | p :: rest => p.width + allWidth rest

end

mutual

/-- The insides of all groups of the pattern. -/
def bodies : Pattern → List Pattern
  | symbols _ => []
  | sequence items => allBodies items
  | select branches => allBodies branches
  | counted body _ => body.bodies
  | loop body _ _ => body.bodies
  | optional body => body.bodies
  | group _ body => body :: body.bodies

def allBodies : List Pattern → List Pattern
  | [] => []
  | p :: rest => p.bodies ++ allBodies rest

end

mutual

/-- Classes and counts are in normal form. Inside the groups on a path, the groups are numbered in the
order of declaration, from the first number up to the one behind the last. -/
def Orderly : Pattern → Label → Nat → Nat → Prop
  | symbols ranges, _, first, next => Interval.Canonical Text.unitLimit ranges ∧ next = first
  | sequence items, path, first, next => AllOrderly items path first next
  | select branches, path, first, next => AllOrderly branches path first next
  | counted body counts, path, first, next =>
    (counts ≠ [] ∧ counts.Pairwise (· < ·)) ∧ Orderly body path first next
  | loop body _ _, path, first, next => Orderly body path first next
  | optional body, path, first, next => Orderly body path first next
  | group label body, path, first, next =>
    label = path ++ [first] ∧ next = first + 1 ∧ ∃ last, Orderly body label 0 last

def AllOrderly : List Pattern → Label → Nat → Nat → Prop
  | [], _, first, next => next = first
  | p :: rest, path, first, next => ∃ middle, Orderly p path first middle ∧ AllOrderly rest path middle next

end

variable {p : Pattern} {items others : List Pattern}

theorem allOrderly_append : AllOrderly (items ++ others) path first next ↔
    ∃ middle, AllOrderly items path first middle ∧ AllOrderly others path middle next := by
  induction items generalizing first with
  | nil => simp [AllOrderly]
  | cons p items ih =>
    simp only [List.cons_append, AllOrderly, ih]
    constructor
    · rintro ⟨k, hp, middle, hitems, hothers⟩
      exact ⟨middle, ⟨k, hp, hitems⟩, hothers⟩
    · rintro ⟨middle, ⟨k, hp, hitems⟩, hothers⟩
      exact ⟨k, hp, middle, hitems, hothers⟩

theorem allOrderly_singleton : AllOrderly [p] path first next ↔ Orderly p path first next := by
  simp [AllOrderly]

theorem orderly_inOrder (h : AllOrderly items path first next) : (inOrder items).Orderly path first next := by
  rw [inOrder.eq_def]
  split
  · exact allOrderly_singleton.1 h
  · exact h

theorem orderly_oneOf (h : AllOrderly items path first next) : (oneOf items).Orderly path first next := by
  rw [oneOf.eq_def]
  split
  · exact allOrderly_singleton.1 h
  · exact h

theorem Orderly.times (h : p.Orderly path first next) (counts : List Nat) :
    (p.times counts).Orderly path first next :=
  ⟨⟨normalCounts_ne_nil counts, normalCounts_strictly_ascending counts⟩, h⟩

/-- What holds of the parts of an orderly pattern: its classes, its counts and its groups. -/
structure Regular (path : Label) (first next : Nat) (p : Pattern) : Prop where
  classes : ∀ ranges ∈ p.classes, Interval.Canonical Text.unitLimit ranges
  counts : ∀ counts ∈ p.countings, counts ≠ [] ∧ counts.Pairwise (· < ·)
  labels : Label.Ascending path first next p.labels
  width : next = first + p.width
  /-- Labels consist of numbers of groups directly inside others. -/
  bound : ∀ n, next ≤ n → (∀ body ∈ p.bodies, body.width ≤ n) →
    ∀ label ∈ p.labels, ∀ rest, label = path ++ rest → ∀ k ∈ rest, k < n

namespace Regular

theorem symbols {ranges : List Interval} (h : Interval.Canonical Text.unitLimit ranges) (path : Label)
    (first : Nat) : Regular path first first (symbols ranges) :=
  ⟨List.forall_mem_singleton.2 h, List.forall_mem_nil _, .nil path first, rfl, fun _ _ _ => List.forall_mem_nil _⟩

theorem nil (path : Label) (first : Nat) : Regular path first first (sequence []) :=
  ⟨List.forall_mem_nil _, List.forall_mem_nil _, .nil path first, rfl, fun _ _ _ => List.forall_mem_nil _⟩

theorem cons (h : Regular path first middle p) (h' : Regular path middle next (sequence items)) :
    Regular path first next (sequence (p :: items)) where
  classes := List.forall_mem_append.2 ⟨h.classes, h'.classes⟩
  counts := List.forall_mem_append.2 ⟨h.counts, h'.counts⟩
  labels := h.labels.append h'.labels
  width := by
    have := h.width
    have := h'.width
    simp only [Pattern.width, allWidth] at *
    omega
  bound n hn hbodies := by
    obtain ⟨hp, hrest⟩ := List.forall_mem_append.1 hbodies
    exact List.forall_mem_append.2 ⟨h.bound n (Nat.le_trans h'.labels.le hn) hp, h'.bound n hn hrest⟩

theorem counted (h : Regular path first next p) {counts : List Nat} (hn : counts ≠ [])
    (hc : counts.Pairwise (· < ·)) : Regular path first next (counted p counts) :=
  ⟨h.classes, List.forall_mem_cons.2 ⟨⟨hn, hc⟩, h.counts⟩, h.labels, h.width, h.bound⟩

theorem group (h : Regular (path ++ [first]) 0 last p) :
    Regular path first (first + 1) (group (path ++ [first]) p) where
  classes := h.classes
  counts := h.counts
  labels := h.labels.group
  width := rfl
  bound n hn hbodies := by
    obtain ⟨hp, hbodies⟩ := List.forall_mem_cons.1 hbodies
    have hlast : last ≤ n := by
      have := h.width
      omega
    refine List.forall_mem_cons.2 ⟨fun rest hrest k hk => ?_, fun label hl rest hrest k hk => ?_⟩
    · obtain rfl := List.append_cancel_left hrest
      obtain rfl := List.mem_singleton.1 hk
      exact hn
    · obtain ⟨j, inner, -, -, rfl⟩ := h.labels.inside label hl
      rw [List.append_assoc] at hrest
      obtain rfl := List.append_cancel_left hrest
      rcases List.mem_cons.1 hk with rfl | hk
      · exact hn
      · exact h.bound n hlast hbodies _ hl _ rfl k hk

end Regular

mutual

theorem regular_of_orderly : ∀ (p : Pattern) {path : Label} {first next : Nat},
    p.Orderly path first next → Regular path first next p
  | .symbols _, path, first, _, ⟨h, rfl⟩ => .symbols h path first
  | sequence items, _, _, _, h => regular_of_allOrderly items h
  | select branches, _, _, _, h =>
    have h := regular_of_allOrderly branches h
    ⟨h.classes, h.counts, h.labels, h.width, h.bound⟩
  | .counted body _, _, _, _, ⟨hcounts, h⟩ => (regular_of_orderly body h).counted hcounts.1 hcounts.2
  | loop body _ _, _, _, _, h =>
    have h := regular_of_orderly body h
    ⟨h.classes, h.counts, h.labels, h.width, h.bound⟩
  | optional body, _, _, _, h =>
    have h := regular_of_orderly body h
    ⟨h.classes, h.counts, h.labels, h.width, h.bound⟩
  | .group _ body, _, _, _, ⟨rfl, rfl, _, h⟩ => (regular_of_orderly body h).group

theorem regular_of_allOrderly : ∀ (items : List Pattern) {path : Label} {first next : Nat},
    AllOrderly items path first next → Regular path first next (sequence items)
  | [], path, first, _, rfl => .nil path first
  | p :: rest, _, _, _, ⟨_, hp, hrest⟩ => (regular_of_orderly p hp).cons (regular_of_allOrderly rest hrest)

end

end Pattern

end Polymatch
