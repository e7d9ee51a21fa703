import Polymatch.Proofs.Arena.Behaviour
import Polymatch.Proofs.Edges.Split

/-! # Contents of nodes

Once a node is worked out, a single edge stands for all ways on an ordinal. The
target of that edge covers the targets of all those ways, and the node accepts if
one of them ends. As long as no ambiguity has been met, all ways on an ordinal bear
the marks of the edge, and all ways to end those of the exit.
-/

namespace Polymatch.Arena

variable {g h : Arena} {S T : Nat → Prop} {i j t x : Nat} {marks : Marks}

/-- The node has the paths of all nodes of a set. -/
def Covers (h : Arena) (t : Nat) (S : Nat → Prop) : Prop :=
  ∀ (on? : Option Nat) (l : Nat) (marks : Marks),
    Path h (fun _ => False) (Stops h (fun _ => False) on?) t l marks ↔
      ∃ i, S i ∧ Path h (fun _ => False) (Stops h (fun _ => False) on?) i l marks

theorem covers_self (h : Arena) (t : Nat) : Covers h t (· = t) := fun _ _ _ => by simp

namespace Covers

theorem congr (hc : Covers h t S) (hST : ∀ i, S i ↔ T i) : Covers h t T := fun on? l marks => by
  simp only [hc on? l marks, hST]

theorem leads (hc : Covers h t S) : Leads h (fun _ => False) t x marks j ↔
    ∃ i, S i ∧ Leads h (fun _ => False) i x marks j := by
  simp only [Leads, hc (some x)]
  constructor
  · rintro ⟨l, before, k, ⟨i, hi, hp⟩, hk⟩
    exact ⟨i, hi, l, before, k, hp, hk⟩
  · rintro ⟨i, hi, l, before, k, hp, hk⟩
    exact ⟨l, before, k, ⟨i, hi, hp⟩, hk⟩

theorem ends (hc : Covers h t S) : Ends h (fun _ => False) t marks ↔
    ∃ i, S i ∧ Ends h (fun _ => False) i marks := by
  simp only [Ends, hc none]
  constructor
  · rintro ⟨l, before, n, ⟨i, hi, hp⟩, hn⟩
    exact ⟨i, hi, l, before, n, hp, hn⟩
  · rintro ⟨i, hi, l, before, n, hp, hn⟩
    exact ⟨l, before, n, ⟨i, hi, hp⟩, hn⟩

theorem spells (hc : Covers h t S) {tr : Trace} : Spells h (fun _ => False) t tr marks ↔
    ∃ i, S i ∧ Spells h (fun _ => False) i tr marks := by
  cases tr with
  | nil => exact hc.ends
  | cons a tr =>
    simp only [Spells, hc.leads]
    constructor
    · rintro ⟨j, ⟨i, hi, hj⟩, ht⟩
      exact ⟨i, hi, j, hj, ht⟩
    · rintro ⟨i, hi, j, hj, ht⟩
      exact ⟨j, ⟨i, hi, hj⟩, ht⟩

/-- A node that covers two nodes covers what they cover. -/
theorem both {a b : Nat} (hc : Covers h t fun i => i = a ∨ i = b) (ha : Covers h a S)
    (hb : Covers h b T) : Covers h t fun i => S i ∨ T i := by
  intro on? l marks
  simp only [hc on? l marks, or_and_right, exists_or, exists_eq_left, ha on? l marks, hb on? l marks]

end Covers

theorem covers_canonical (hg : g.WellFormed) (hs : Settles g h) (i : Nat) :
    Covers h i (· = g.canonical i) := fun on? l marks => by
  simp [path_canonical hg hs (pending_none g)]

theorem covers_union {a b : Nat} (hg : g.WellFormed) (ha : a < g.size) (hb : b < g.size)
    (hs : Settles (g.union a b).2 h) : Covers h (g.union a b).1 fun i => i = a ∨ i = b := by
  intro on? l marks
  simp only [path_union_iff hg ha hb hs (pending_none g), or_and_right, exists_or, exists_eq_left]

theorem covers_members {members : IdSet} (hr : h.recipe i = .union members) :
    Covers h i (· ∈ members) := fun on? l marks => by
  rw [path_union hr, and_iff_right id]

section Leads

theorem leads_annotate {added : Marks} (hr : h.recipe i = .annotate j added) {k : Nat} :
    Leads h (fun _ => False) i x marks k ↔
      ∃ before, Leads h (fun _ => False) j x before k ∧ marks = before ∪ added := by
  simp only [Leads, path_annotate hr, not_false_eq_true, true_and]
  constructor
  · rintro ⟨l, _, link, ⟨before, hp, rfl⟩, hl, rfl, hk⟩
    exact ⟨_, ⟨l, before, link, hp, hl, rfl, hk⟩, (SortedSet.union_assoc ..).symm⟩
  · rintro ⟨_, ⟨l, before, link, hp, hl, rfl, hk⟩, rfl⟩
    exact ⟨l, _, link, ⟨before, hp, rfl⟩, hl, SortedSet.union_assoc .., hk⟩

theorem ends_annotate {added : Marks} (hr : h.recipe i = .annotate j added) :
    Ends h (fun _ => False) i marks ↔
      ∃ before, Ends h (fun _ => False) j before ∧ marks = before ∪ added := by
  simp only [Ends, path_annotate hr, not_false_eq_true, true_and]
  constructor
  · rintro ⟨l, _, n, ⟨before, hp, rfl⟩, hn, ha, rfl⟩
    exact ⟨_, ⟨l, before, n, hp, hn, ha, rfl⟩, (SortedSet.union_assoc ..).symm⟩
  · rintro ⟨_, ⟨l, before, n, hp, hn, ha, rfl⟩, rfl⟩
    exact ⟨l, _, n, ⟨before, hp, rfl⟩, hn, ha, SortedSet.union_assoc ..⟩

theorem leads_prefer {w v k : Nat} (hr : h.recipe i = .prefer w v) :
    Leads h (fun _ => False) i x marks k ↔ Leads h (fun _ => False) w x marks k ∨
      ¬ Binds h (fun _ => False) w x ∧ Leads h (fun _ => False) v x marks k := by
  simp only [Leads, path_prefer hr, not_false_eq_true, true_and, Stops, or_and_right, exists_or,
    and_assoc, exists_and_left]

theorem ends_prefer {w v : Nat} (hr : h.recipe i = .prefer w v) :
    Ends h (fun _ => False) i marks ↔
      Ends h (fun _ => False) w marks ∨ Ends h (fun _ => False) v marks := by
  simp only [Ends, path_prefer hr, not_false_eq_true, true_and, Stops, or_and_right, exists_or]

theorem Path.reaches {blocked stops : Nat → Prop} {l : Nat} (hp : Path h blocked stops i l marks) :
    Reaches h blocked i l := by
  induction hp with
  | leaf hb hl => exact ⟨_, .leaf hb hl⟩
  | member hb hr hm _ ih => exact ih.imp fun _ hp => .member hb hr hm hp
  | inner hb hr _ ih =>
    obtain ⟨marks, hp⟩ := ih
    exact ⟨_, .inner hb hr hp⟩
  | winner hb hr _ ih => exact ih.imp fun _ hp => .winner hb hr hp
  | loser hb hr _ _ ih => exact ih.imp fun _ hp => .loser hb hr id hp
  | entry hb hr _ ih => exact ih.imp fun _ hp => .entry hb hr hp

/-- A node binds the ordinals on which it leads on: where a winner stops the loser, the winner
leads on itself. -/
theorem binds_iff (hh : h.WellFormed) : Binds h (fun _ => False) i x ↔
    ∃ marks j, Leads h (fun _ => False) i x marks j := by
  constructor
  · intro hb
    induction i using hh.founded.induct with
    | step i ih =>
      obtain ⟨l, k, ⟨marks, hp⟩, hk⟩ := hb
      cases hp with
      | leaf _ hl => exact ⟨_, _, _, _, k, .leaf id hl, hk, rfl, rfl⟩
      | member _ hr hm hp =>
        obtain ⟨marks, j, hj⟩ := ih _ (operand_member hr hm) ⟨l, k, ⟨_, hp⟩, hk⟩
        exact ⟨marks, j, (covers_members hr).leads.2 ⟨_, hm, hj⟩⟩
      | inner _ hr hp =>
        obtain ⟨marks, j, hj⟩ := ih _ (operand_inner hr) ⟨l, k, ⟨_, hp⟩, hk⟩
        exact ⟨_, j, (leads_annotate hr).2 ⟨marks, hj, rfl⟩⟩
      | winner _ hr hp =>
        obtain ⟨marks, j, hj⟩ := ih _ (operand_winner hr) ⟨l, k, ⟨_, hp⟩, hk⟩
        exact ⟨marks, j, (leads_prefer hr).2 (.inl hj)⟩
      | @loser _ w v _ _ _ hr _ hp =>
        by_cases hw : Binds h (fun _ => False) w x
        · obtain ⟨marks, j, hj⟩ := ih w (operand_winner hr) hw
          exact ⟨marks, j, (leads_prefer hr).2 (.inl hj)⟩
        · obtain ⟨marks, j, hj⟩ := ih v (operand_loser hr) ⟨l, k, ⟨_, hp⟩, hk⟩
          exact ⟨marks, j, (leads_prefer hr).2 (.inr ⟨hw, hj⟩)⟩
      | entry _ hr hp =>
        obtain ⟨marks, j, l, before, k, hp, hj⟩ := ih _ (operand_entry hr) ⟨l, k, ⟨_, hp⟩, hk⟩
        exact ⟨marks, j, l, before, k, (path_entry hr).2 ⟨id, hp⟩, hj⟩
  · rintro ⟨marks, j, l, before, k, hp, hk, -⟩
    exact ⟨l, k, hp.reaches, hk⟩

end Leads

/-- What an edge, or none, says of the ways that lead on. -/
def Follows (h : Arena) (ways : Marks → Nat → Prop) : Option Link → Prop
  | none => ∀ marks j, ¬ ways marks j
  | some k => (∃ marks j, ways marks j) ∧ Covers h k.next fun j => ∃ marks, ways marks j

/-- Every way bears the marks of the edge or of the exit that stands for it. -/
structure Even (h : Arena) (S : Nat → Prop) (n : Node) : Prop where
  link : ∀ {x i j : Nat} {k : Link} {marks : Marks}, n.edges.link? x = some k → S i →
    Leads h (fun _ => False) i x marks j → marks = k.marks
  exit : ∀ {i : Nat} {marks : Marks}, S i → Ends h (fun _ => False) i marks → marks = n.exit

/-- The node says what the nodes of a set do. -/
structure Holds (h : Arena) (ambiguous : Bool) (S : Nat → Prop) (n : Node) : Prop where
  follows : ∀ x, Follows h (fun marks j => ∃ i, S i ∧ Leads h (fun _ => False) i x marks j)
    (n.edges.link? x)
  accepting : n.isAccepting = true ↔ ∃ i, S i ∧ ∃ marks, Ends h (fun _ => False) i marks
  even : ambiguous = false → Even h S n

theorem Follows.congr {ways ways' : Marks → Nat → Prop} {k? : Option Link} (hf : Follows h ways k?)
    (hw : ∀ marks j, ways marks j ↔ ways' marks j) : Follows h ways' k? := by
  obtain rfl : ways = ways' := funext fun marks => funext fun j => propext (hw marks j)
  exact hf

variable {ambiguous : Bool} {n : Node}

/-- What is said of the nodes that a node covers is said of the node. -/
theorem Holds.of_covers (hn : Holds h ambiguous S n) (hc : Covers h t S) :
    Holds h ambiguous (· = t) n where
  follows x := (hn.follows x).congr fun marks j => by rw [exists_eq_left, hc.leads]
  accepting := by
    rw [hn.accepting, exists_eq_left]
    simp only [hc.ends]
    constructor
    · rintro ⟨i, hi, marks, he⟩
      exact ⟨marks, i, hi, he⟩
    · rintro ⟨marks, i, hi, he⟩
      exact ⟨i, hi, marks, he⟩
  even ha := by
    refine ⟨?_, ?_⟩
    · rintro x _ j k marks hk rfl hl
      obtain ⟨i, hi, hl⟩ := hc.leads.1 hl
      exact (hn.even ha).link hk hi hl
    · rintro _ marks rfl he
      obtain ⟨i, hi, he⟩ := hc.ends.1 he
      exact (hn.even ha).exit hi he

theorem holds_dead (h : Arena) (ambiguous : Bool) : Holds h ambiguous (fun _ => False) .dead where
  follows x marks j := by simp
  accepting := by simp [Node.isAccepting, Node.dead]
  even _ := ⟨fun _ hi => hi.elim, fun hi => hi.elim⟩

/-- A node built outright says what it does. -/
theorem holds_built (hh : h.WellFormed) (hr : h.recipe i = .built) (hn : h.content? i = some n) :
    Holds h ambiguous (· = i) n := by
  by_cases hi : i = nothing
  · subst hi
    obtain rfl : Node.dead = n := Option.some.inj (hh.content_nothing.symm.trans hn)
    exact (holds_dead h ambiguous).of_covers fun on? l marks => by simp [path_nothing hh (.refl h)]
  · have hleads : ∀ {x marks j}, Leads h (fun _ => False) i x marks j ↔
        ∃ k, n.edges.link? x = some k ∧ marks = k.marks ∧ j = k.next := by
      simp [Leads, path_built hr, hi, linkAt?, hn]
    have hends : ∀ {marks}, Ends h (fun _ => False) i marks ↔ n.isAccepting = true ∧ marks = n.exit := by
      simp [Ends, path_built hr, hi, hn]
    refine ⟨fun x => ?_, ?_, fun _ => ⟨?_, ?_⟩⟩
    · simp only [exists_eq_left, hleads]
      cases n.edges.link? x with
      | none => simp [Follows]
      | some k =>
        refine ⟨⟨k.marks, k.next, k, rfl, rfl, rfl⟩, (covers_self h k.next).congr fun j => ?_⟩
        constructor
        · rintro rfl
          exact ⟨k.marks, k, rfl, rfl, rfl⟩
        · rintro ⟨_, _, hk, -, rfl⟩
          rw [Option.some.inj hk]
    · simp [hends]
    · rintro x _ j k marks hk rfl hl
      obtain ⟨k', hk', rfl, -⟩ := hleads.1 hl
      rw [Option.some.inj (hk.symm.trans hk')]
    · rintro _ marks rfl he
      exact (hends.1 he).2

theorem holds_overlay {added : Marks} (hr : h.recipe i = .annotate j added)
    (hn : Holds h ambiguous (· = j) n) : Holds h ambiguous (· = i) (n.overlay added) := by
  have hlink : ∀ x, (n.overlay added).edges.link? x =
      (n.edges.link? x).map fun k => { k with marks := k.marks ∪ added } :=
    EdgeMap.link?_map fun _ => rfl
  have hacc : (n.overlay added).isAccepting = n.isAccepting := rfl
  refine ⟨fun x => ?_, ?_, fun ha => ⟨?_, ?_⟩⟩
  · have hf := hn.follows x
    simp only [exists_eq_left, hlink, leads_annotate hr] at hf ⊢
    cases hk : n.edges.link? x with
    | none =>
      rw [hk] at hf
      rintro marks k ⟨before, hl, -⟩
      exact hf before k hl
    | some k =>
      rw [hk] at hf
      obtain ⟨⟨marks, t, hl⟩, hc⟩ := hf
      refine ⟨⟨_, t, marks, hl, rfl⟩, hc.congr fun t => ?_⟩
      constructor
      · rintro ⟨marks, hl⟩
        exact ⟨_, marks, hl, rfl⟩
      · rintro ⟨_, marks, hl, -⟩
        exact ⟨marks, hl⟩
  · rw [hacc, hn.accepting]
    simp only [exists_eq_left, ends_annotate hr]
    constructor
    · rintro ⟨marks, he⟩
      exact ⟨_, marks, he, rfl⟩
    · rintro ⟨_, marks, he, -⟩
      exact ⟨marks, he⟩
  · rintro x _ t k marks hk rfl hl
    obtain ⟨before, hb, rfl⟩ := (leads_annotate hr).1 hl
    rw [hlink, Option.map_eq_some_iff] at hk
    obtain ⟨k, hk, rfl⟩ := hk
    rw [(hn.even ha).link hk rfl hb]
  · rintro _ marks rfl he
    obtain ⟨before, hb, rfl⟩ := (ends_annotate hr).1 he
    rw [(hn.even ha).exit rfl hb, Node.overlay, if_pos (hn.accepting.2 ⟨j, rfl, before, hb⟩)]

section Join

open EdgeMap (Joined)

/-- The edge of a union on an ordinal that both sides bind. -/
structure Shares (h : Arena) (ambiguous : Bool) (p q k : Link) : Prop where
  covers : Covers h k.next fun j => j = p.next ∨ j = q.next
  marks : ambiguous = false → p.marks = k.marks ∧ q.marks = k.marks

variable {m : EdgeMap} {a b : Node} {bound : Nat}

theorem Follows.union {ways ways' : Marks → Nat → Prop} {p? q? : Option Link}
    (hp : Follows h ways p?) (hq : Follows h ways' q?) (hj : Joined (Shares h ambiguous) m x p? q?) :
    Follows h (fun marks j => ways marks j ∨ ways' marks j) (m.link? x) := by
  cases p? <;> cases q?
  case none.none =>
    rw [show m.link? x = none from hj]
    rintro marks j (hw | hw)
    · exact hp marks j hw
    · exact hq marks j hw
  case some.none p =>
    rw [show m.link? x = some p from hj]
    exact hp.congr fun marks j => (or_iff_left (hq marks j)).symm
  case none.some q =>
    rw [show m.link? x = some q from hj]
    exact hq.congr fun marks j => (or_iff_right (hp marks j)).symm
  case some.some p q =>
    obtain ⟨k, hk, hs⟩ := hj
    obtain ⟨⟨marks, j, hw⟩, hc⟩ := hp
    rw [hk]
    refine ⟨⟨marks, j, .inl hw⟩, (hs.covers.both hc hq.2).congr fun j => ?_⟩
    rw [exists_or]

/-- The winner's edge is kept, so the loser leads on only where the winner does not. -/
theorem Follows.prefer {ways ways' : Marks → Nat → Prop} {p? q? : Option Link}
    (hp : Follows h ways p?) (hq : Follows h ways' q?) (hj : Joined (fun p _ k => k = p) m x p? q?) :
    Follows h (fun marks j => ways marks j ∨ (¬ ∃ marks j, ways marks j) ∧ ways' marks j)
      (m.link? x) := by
  cases p? with
  | none =>
    have hnot : ¬ ∃ marks j, ways marks j := fun ⟨marks, j, hw⟩ => hp marks j hw
    have hm : m.link? x = q? := by cases q? <;> exact hj
    rw [hm]
    exact hq.congr fun marks j => by rw [or_iff_right (hp marks j), and_iff_right hnot]
  | some p =>
    have hm : m.link? x = some p := by
      cases q? with
      | none => exact hj
      | some q =>
        obtain ⟨k, hk, rfl⟩ := hj
        exact hk
    rw [hm]
    exact hp.congr fun marks j => (or_iff_left fun hw => hw.1 hp.1).symm

theorem link_of_joined {p? q? : Option Link} (hj : Joined (fun p _ k => k = p) m x p? q?) {k p : Link}
    (hk : m.link? x = some k) (hp : p? = some p) : k = p := by
  subst hp
  cases q? with
  | none => exact Option.some.inj (hk.symm.trans hj)
  | some q =>
    obtain ⟨k', hk', rfl⟩ := hj
    exact Option.some.inj (hk.symm.trans hk')

theorem marks_of_joined {p? q? : Option Link} (hj : Joined (Shares h ambiguous) m x p? q?)
    (ha : ambiguous = false) {k : Link} (hk : m.link? x = some k) :
    (∀ p ∈ p?, p.marks = k.marks) ∧ ∀ q ∈ q?, q.marks = k.marks := by
  cases p? <;> cases q?
  case none.none => simp
  case some.none p =>
    obtain rfl : p = k := Option.some.inj ((show m.link? x = some p from hj).symm.trans hk)
    simp
  case none.some q =>
    obtain rfl : q = k := Option.some.inj ((show m.link? x = some q from hj).symm.trans hk)
    simp
  case some.some p q =>
    obtain ⟨k', hk', hs⟩ := hj
    obtain rfl : k' = k := Option.some.inj (hk'.symm.trans hk)
    simpa using hs.marks ha

theorem isAccepting_join {exit : Marks} :
    (⟨m, a.accept ∪ b.accept, exit⟩ : Node).isAccepting = true ↔
      a.isAccepting = true ∨ b.isAccepting = true := by
  simp only [Node.isAccepting_iff, SortedSet.mem_union, exists_or]

/-- Where the exits of accepting nodes agree, both are that of the joined node. -/
theorem exits_agree (ha : a.Within bound) (hb : b.Within bound)
    (heq : a.isAccepting = true → b.isAccepting = true → a.exit = b.exit) :
    (a.isAccepting = true → a.exit = a.exit ∪ b.exit) ∧
      (b.isAccepting = true → b.exit = a.exit ∪ b.exit) := by
  cases hacca : a.isAccepting with
  | false => simp [ha.exit hacca]
  | true =>
    cases haccb : b.isAccepting with
    | false => simp [hb.exit haccb]
    | true => simp [heq hacca haccb]

theorem Holds.exists_link {i : Nat} {n : Node} {S : Nat → Prop} (hn : Holds h ambiguous S n) (hi : S i)
    {marks : Marks} (hl : Leads h (fun _ => False) i x marks j) :
    ∃ k, n.edges.link? x = some k := by
  have hf := hn.follows x
  cases hk : n.edges.link? x with
  | none =>
    rw [hk] at hf
    exact absurd ⟨i, hi, hl⟩ (hf marks j)
  | some k => exact ⟨k, rfl⟩

theorem Holds.union (ha : Holds h ambiguous S a) (hb : Holds h ambiguous T b) (hwa : a.Within bound)
    (hwb : b.Within bound)
    (hj : ∀ x, Joined (Shares h ambiguous) m x (a.edges.link? x) (b.edges.link? x))
    (hexit : ambiguous = false → a.isAccepting = true → b.isAccepting = true → a.exit = b.exit) :
    Holds h ambiguous (fun i => S i ∨ T i) ⟨m, a.accept ∪ b.accept, a.exit ∪ b.exit⟩ where
  follows x := ((ha.follows x).union (hb.follows x) (hj x)).congr fun marks j => by
    simp only [or_and_right, exists_or]
  accepting := by
    rw [isAccepting_join, ha.accepting, hb.accepting]
    simp only [or_and_right, exists_or]
  even hamb := by
    refine ⟨?_, ?_⟩
    · rintro x i j k marks hk (hi | hi) hl
      · obtain ⟨p, hp⟩ := ha.exists_link hi hl
        rw [(ha.even hamb).link hp hi hl]
        exact (marks_of_joined (hj x) hamb hk).1 p hp
      · obtain ⟨q, hq⟩ := hb.exists_link hi hl
        rw [(hb.even hamb).link hq hi hl]
        exact (marks_of_joined (hj x) hamb hk).2 q hq
    · rintro i marks (hi | hi) he
      · rw [(ha.even hamb).exit hi he]
        exact (exits_agree hwa hwb (hexit hamb)).1 (ha.accepting.2 ⟨i, hi, marks, he⟩)
      · rw [(hb.even hamb).exit hi he]
        exact (exits_agree hwa hwb (hexit hamb)).2 (hb.accepting.2 ⟨i, hi, marks, he⟩)

/-- The node of a preference says what the preference does. -/
theorem holds_prefer {w v : Nat} (hh : h.WellFormed) (hr : h.recipe i = .prefer w v)
    (ha : Holds h ambiguous (· = w) a) (hb : Holds h ambiguous (· = v) b) (hwa : a.Within bound)
    (hwb : b.Within bound)
    (hj : ∀ x, Joined (fun p _ k => k = p) m x (a.edges.link? x) (b.edges.link? x))
    (hexit : ambiguous = false → a.isAccepting = true → b.isAccepting = true → a.exit = b.exit) :
    Holds h ambiguous (· = i) ⟨m, a.accept ∪ b.accept, a.exit ∪ b.exit⟩ where
  follows x := ((ha.follows x).prefer (hb.follows x) (hj x)).congr fun marks j => by
    simp only [exists_eq_left, leads_prefer hr, binds_iff hh]
  accepting := by
    rw [isAccepting_join, ha.accepting, hb.accepting]
    simp only [exists_eq_left, ends_prefer hr, exists_or]
  even hamb := by
    refine ⟨?_, ?_⟩
    · rintro x _ j k marks hk rfl hl
      rcases (leads_prefer hr).1 hl with hw | ⟨hnot, hv⟩
      · obtain ⟨p, hp⟩ := ha.exists_link rfl hw
        rw [(ha.even hamb).link hp rfl hw]
        exact congrArg Link.marks (link_of_joined (hj x) hk hp).symm
      · have hp : a.edges.link? x = none := by
          have hf := ha.follows x
          cases hp : a.edges.link? x with
          | none => rfl
          | some p =>
            rw [hp] at hf
            simp only [exists_eq_left] at hf
            exact absurd ((binds_iff hh).2 hf.1) hnot
        obtain ⟨q, hq⟩ := hb.exists_link rfl hv
        rw [(hb.even hamb).link hq rfl hv]
        have hjx := hj x
        rw [hp, hq] at hjx
        rw [Option.some.inj (hk.symm.trans hjx)]
    · rintro _ marks rfl he
      rcases (ends_prefer hr).1 he with hw | hv
      · rw [(ha.even hamb).exit rfl hw]
        exact (exits_agree hwa hwb (hexit hamb)).1 (ha.accepting.2 ⟨w, rfl, marks, hw⟩)
      · rw [(hb.even hamb).exit rfl hv]
        exact (exits_agree hwa hwb (hexit hamb)).2 (hb.accepting.2 ⟨v, rfl, marks, hv⟩)

end Join

end Polymatch.Arena
