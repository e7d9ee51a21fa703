import Polymatch.Proofs.Automaton.Embedding
import Polymatch.Proofs.Merge.Numbering

/-! # The sides of a merge

Both sides of a merge of patterns are embedded in the merged automaton: the left
one as it is, the right one with its ids and slots moved up. An input is accepted
by the patterns of both sides that accept it.
-/

namespace Polymatch

namespace Product

variable {p : Product}

/-- The state `k` stands for the pair `q`. -/
def Stands (pairs : Array Discovered) (k : Nat) (q : StatePair) : Prop :=
  ∃ d, pairs[k]? = some d ∧ d.pair = q

/-- The automaton numbers all the pairs. -/
structure Merged (p : Product) (pairs : Array Discovered) (m : Automaton) : Prop
    extends Numbering p pairs m.nodes where
  start_eq : m.start = 0
  size_eq : pairs.size = m.stateCount
  unflagged : m.ambiguous = false → ∀ (k : Nat) (d : Discovered) (n : PairNode), pairs[k]? = some d →
    p.pairNode d = .ok n → n.ambiguous = false

theorem mem_routes_together {l? r? : Option Link} {t : PairLink} (h : together l? r? = some t) {i : Nat} :
    i ∈ t.routes ↔ (∃ a, l? = some a ∧ i ∈ a.routes) ∨ ∃ b, r? = some b ∧ i ∈ b.routes := by
  cases l? <;> cases r? <;> simp only [together, reduceCtorEq, Option.some.injEq] at h <;> subst h <;> simp

theorem mem_marks_together {l? r? : Option Link} {t : PairLink} (h : together l? r? = some t) {m : Mark} :
    m ∈ t.marks ↔ (∃ a, l? = some a ∧ m ∈ a.marks) ∨ ∃ b, r? = some b ∧ m ∈ b.marks := by
  cases l? <;> cases r? <;> simp only [together, reduceCtorEq, Option.some.injEq] at h <;> subst h <;> simp

theorem target_together {l? r? : Option Link} {t : PairLink} (h : together l? r? = some t) :
    t.target = ⟨l?.map Link.next, r?.map Link.next⟩ := by
  cases l? <;> cases r? <;> simp only [together, reduceCtorEq, Option.some.injEq] at h <;> subst h <;> rfl

theorem together_eq_none {l? r? : Option Link} : together l? r? = none ↔ l? = none ∧ r? = none := by
  cases l? <;> cases r? <;> simp [together]

namespace Merged

variable {pairs : Array Discovered} {m : Automaton} {k x : Nat} {q : StatePair}

theorem stands_start (h : Merged p pairs m) :
    Stands pairs m.start ⟨some p.left.start, some p.right.start⟩ := h.start_eq ▸ h.start

theorem exists_pairNode (h : Merged p pairs m) (hk : Stands pairs k q) : ∃ d n, pairs[k]? = some d ∧
    d.pair = q ∧ p.pairNode d = .ok n ∧ (∀ e ∈ n.edges, Knows pairs e.2) ∧
    m.node k = ⟨.ofDisjoint (n.edges.map (renumber pairs)), n.accept, n.exit⟩ := by
  obtain ⟨d, hd, rfl⟩ := hk
  obtain ⟨hlt, -⟩ := Array.getElem?_eq_some_iff.1 hd
  rw [h.size_eq] at hlt
  have hnode : m.nodes[k]? = some (m.node k) := by
    rw [Automaton.node, Array.getD_eq_getD_getElem?, Array.getElem?_eq_getElem hlt, Option.getD_some]
  obtain ⟨d', n, hd', hn, hknows, heq⟩ := h.built k _ hnode
  obtain rfl : d = d' := Option.some.inj (hd.symm.trans hd')
  exact ⟨d, n, hd, rfl, hn, hknows, heq⟩

theorem link?_eq_none (h : Merged p pairs m) (hk : Stands pairs k q) (hx : p.pairLink? q x = none) :
    (m.node k).edges.link? x = none := by
  obtain ⟨d, n, -, rfl, hn, -, heq⟩ := h.exists_pairNode hk
  refine Option.eq_none_iff_forall_ne_some.2 fun j hj => ?_
  rw [heq, EdgeMap.link?_ofDisjoint (renumber_apart hn pairs)] at hj
  obtain ⟨_, hm, hc, -⟩ := hj
  obtain ⟨e, he, rfl⟩ := List.mem_map.1 hm
  have hedge := (pairSays_pairNode hn).1 ⟨e, he, hc, rfl⟩
  simp [hx] at hedge

/-- Where the pair has something to say, the state says it too, and leads to a state that stands
for the target. -/
theorem link?_eq_some (h : Merged p pairs m) (hk : Stands pairs k q) {t : PairLink}
    (ht : p.pairLink? q x = some t) :
    ∃ next, (m.node k).edges.link? x = some ⟨next, t.routes, t.marks⟩ ∧ Stands pairs next t.target := by
  obtain ⟨d, n, -, rfl, hn, hknows, heq⟩ := h.exists_pairNode hk
  obtain ⟨e, he, hc, rfl⟩ := (pairSays_pairNode hn).2 ht
  obtain ⟨j, d', hj, hd', hq⟩ := (hknows e he).place
  refine ⟨j, ?_, d', hd', hq⟩
  rw [heq, EdgeMap.link?_ofDisjoint (renumber_apart hn pairs)]
  refine ⟨_, List.mem_map_of_mem he, hc, ?_⟩
  simp [Edge.link, renumber, hj]

theorem mem_accept (h : Merged p pairs m) (hk : Stands pairs k q) {i : Nat} : i ∈ (m.node k).accept ↔
    (∃ s, q.left? = some s ∧ i ∈ (p.left.node s).accept) ∨
      ∃ s, q.right? = some s ∧ i ∈ (p.right.node s).accept.shift p.idOffset := by
  obtain ⟨d, n, -, rfl, hn, -, heq⟩ := h.exists_pairNode hk
  rw [heq]
  exact mem_accept_pairNode hn

theorem mem_exit (h : Merged p pairs m) (hk : Stands pairs k q) {b : Mark} : b ∈ (m.node k).exit ↔
    (∃ s, q.left? = some s ∧ b ∈ (p.left.node s).exit) ∨
      ∃ s, q.right? = some s ∧ b ∈ (p.right.node s).exit.shift p.captureOffset := by
  obtain ⟨d, n, -, rfl, hn, -, heq⟩ := h.exists_pairNode hk
  rw [heq]
  exact mem_exit_pairNode hn

/-- The state goes on with the state `s` of the left side. -/
def LeftOf (pairs : Array Discovered) (k s : Nat) : Prop := ∃ q, Stands pairs k q ∧ q.left? = some s

/-- The state goes on with the state `s` of the right side. -/
def RightOf (pairs : Array Discovered) (k s : Nat) : Prop := ∃ q, Stands pairs k q ∧ q.right? = some s

theorem leftLink?_of_left {s : Nat} (h : q.left? = some s) :
    p.leftLink? q x = (p.left.node s).edges.link? x := by
  rw [leftLink?, h, Option.bind_some]

theorem rightLink?_of_right {s : Nat} (h : q.right? = some s) :
    p.rightLink? q x = ((p.right.node s).edges.link? x).map p.shiftLink := by
  rw [rightLink?, h, Option.bind_some]

/-- The ids of the right side lie above those of the left side. -/
theorem le_of_mem_rightLink {b : Link} (hb : p.rightLink? q x = some b) {i : Nat} (hi : i ∈ b.routes) :
    p.idOffset ≤ i := by
  obtain ⟨s, -, hs⟩ := Option.bind_eq_some_iff.1 hb
  obtain ⟨c, -, rfl⟩ := Option.map_eq_some_iff.1 hs
  obtain ⟨j, -, rfl⟩ := IdSet.mem_shift.1 hi
  exact Nat.le_add_left ..

theorem lt_of_mem_leftLink (hl : p.left.WellFormed) {a : Link} (ha : p.leftLink? q x = some a) {i : Nat}
    (hi : i ∈ a.routes) : i < p.left.patterns := by
  obtain ⟨s, -, hs⟩ := Option.bind_eq_some_iff.1 ha
  exact hl.routes_lt_of_link hs hi

theorem le_of_mark_rightLink {b : Link} (hb : p.rightLink? q x = some b) {m : Mark} (hm : m ∈ b.marks) :
    p.captureOffset ≤ m.slot := by
  obtain ⟨s, -, hs⟩ := Option.bind_eq_some_iff.1 hb
  obtain ⟨c, -, rfl⟩ := Option.map_eq_some_iff.1 hs
  obtain ⟨n, -, rfl⟩ := Marks.mem_shift.1 hm
  exact Nat.le_add_left ..

theorem lt_of_mark_leftLink (hl : p.left.WellFormed) {a : Link} (ha : p.leftLink? q x = some a) {m : Mark}
    (hm : m ∈ a.marks) : m.slot < p.left.captures := by
  obtain ⟨s, -, hs⟩ := Option.bind_eq_some_iff.1 ha
  exact hl.marks_lt_of_link hs hm

/-- A state says only what its pair says. -/
theorem exists_pairLink (h : Merged p pairs m) (hk : Stands pairs k q) {j : Link}
    (hj : (m.node k).edges.link? x = some j) : ∃ t, p.pairLink? q x = some t ∧
      Stands pairs j.next t.target ∧ j.routes = t.routes ∧ j.marks = t.marks := by
  cases ht : p.pairLink? q x with
  | none => simp [h.link?_eq_none hk ht] at hj
  | some t =>
    obtain ⟨next, hnext, hstands⟩ := h.link?_eq_some hk ht
    obtain rfl := Option.some.inj (hnext.symm.trans hj)
    exact ⟨t, rfl, hstands, rfl, rfl⟩

/-- Every merged node stands for a pair of states. -/
theorem exists_stands_of_mem (h : Merged p pairs m) {n : Node} (hn : n ∈ m.nodes) :
    ∃ k q, Stands pairs k q ∧ m.node k = n := by
  obtain ⟨k, hlt, rfl⟩ := Automaton.exists_node_of_mem hn
  exact ⟨k, _, ⟨_, Array.getElem?_eq_getElem (h.size_eq ▸ hlt), rfl⟩, rfl⟩

theorem next_lt (h : Merged p pairs m) {n : Node} (hn : n ∈ m.nodes) {e : Edge} (he : e ∈ n.edges.edges) :
    e.next < m.stateCount := by
  obtain ⟨k, q, hstands, rfl⟩ := h.exists_stands_of_mem hn
  have hx : e.contains e.lo = true :=
    Edge.contains_iff.2 ⟨Nat.le_refl _, (m.node k).edges.canonical.nonempty e he⟩
  have hlink : (m.node k).edges.link? e.lo = some e.link := EdgeMap.link?_eq_some.2 ⟨e, he, hx, rfl⟩
  obtain ⟨t, -, ⟨d', hd', -⟩, -, -⟩ := h.exists_pairLink hstands hlink
  obtain ⟨hlt', -⟩ := Array.getElem?_eq_some_iff.1 hd'
  exact h.size_eq ▸ hlt'

theorem embeds_left (h : Merged p pairs m) (hoff : p.left.patterns ≤ p.idOffset)
    (hm : p.left.patterns ≤ m.patterns) : p.left.Embeds m 0 (LeftOf pairs) where
  start := ⟨_, h.stands_start, rfl⟩
  patterns_le := hm
  link := by
    rintro k s x c ⟨q, hk, hs⟩ hc
    have hleft : p.leftLink? q x = some c := (leftLink?_of_left hs).trans hc
    obtain ⟨t, ht⟩ : ∃ t, p.pairLink? q x = some t := by
      rw [← Option.ne_none_iff_exists', pairLink?, Ne, together_eq_none, hleft]
      simp
    obtain ⟨next, hj, hstands⟩ := h.link?_eq_some hk ht
    refine ⟨_, hj, ⟨t.target, hstands, ?_⟩, fun i hi => ?_⟩
    · rw [target_together ht, hleft, Option.map_some]
    · rw [mem_routes_together ht, hleft, Nat.add_zero]
      constructor
      · rintro (⟨a, ha, hia⟩ | ⟨b, hb, hib⟩)
        · exact Option.some.inj ha ▸ hia
        · have := le_of_mem_rightLink hb hib
          omega
      · exact fun hic => .inl ⟨c, rfl, hic⟩
  stuck := by
    rintro k s x i j ⟨q, hk, hs⟩ hn hj hi hij
    obtain ⟨t, ht, -, hr, -⟩ := h.exists_pairLink hk hj
    rw [hr, mem_routes_together ht, leftLink?_of_left hs, hn] at hij
    rcases hij with ⟨a, ha, -⟩ | ⟨b, hb, hib⟩
    · cases ha
    · have := le_of_mem_rightLink hb hib
      omega
  accept := by
    rintro k s ⟨q, hk, hs⟩ i hi
    rw [h.mem_accept hk, Nat.add_zero]
    constructor
    · rintro (⟨s', hs', his⟩ | ⟨r, -, hir⟩)
      · exact Option.some.inj (hs'.symm.trans hs) ▸ his
      · obtain ⟨j, -, rfl⟩ := IdSet.mem_shift.1 hir
        omega
    · exact fun his => .inl ⟨s, hs, his⟩

theorem embeds_right (h : Merged p pairs m) (hl : p.left.WellFormed)
    (hoff : p.left.patterns ≤ p.idOffset) (hm : p.right.patterns + p.idOffset ≤ m.patterns) :
    p.right.Embeds m p.idOffset (RightOf pairs) where
  start := ⟨_, h.stands_start, rfl⟩
  patterns_le := hm
  link := by
    rintro k s x c ⟨q, hk, hs⟩ hc
    have hright : p.rightLink? q x = some (p.shiftLink c) := by
      rw [rightLink?_of_right hs, hc, Option.map_some]
    obtain ⟨t, ht⟩ : ∃ t, p.pairLink? q x = some t := by
      rw [← Option.ne_none_iff_exists', pairLink?, Ne, together_eq_none, hright]
      simp
    obtain ⟨next, hj, hstands⟩ := h.link?_eq_some hk ht
    refine ⟨_, hj, ⟨t.target, hstands, ?_⟩, fun i hi => ?_⟩
    · rw [target_together ht, hright]
      rfl
    · rw [mem_routes_together ht, hright]
      constructor
      · rintro (⟨a, ha, hia⟩ | ⟨b, hb, hib⟩)
        · have := lt_of_mem_leftLink hl ha hia
          omega
        · obtain rfl := Option.some.inj hb
          obtain ⟨j, hj, hij⟩ := IdSet.mem_shift.1 hib
          exact Nat.add_right_cancel hij ▸ hj
      · exact fun hic => .inr ⟨_, rfl, IdSet.mem_shift.2 ⟨i, hic, rfl⟩⟩
  stuck := by
    rintro k s x i j ⟨q, hk, hs⟩ hn hj hi hij
    obtain ⟨t, ht, -, hr, -⟩ := h.exists_pairLink hk hj
    rw [hr, mem_routes_together ht, rightLink?_of_right hs, hn] at hij
    rcases hij with ⟨a, ha, hia⟩ | ⟨b, hb, -⟩
    · have := lt_of_mem_leftLink hl ha hia
      omega
    · cases hb
  accept := by
    rintro k s ⟨q, hk, hs⟩ i hi
    rw [h.mem_accept hk]
    constructor
    · rintro (⟨s', -, his⟩ | ⟨r, hr, hir⟩)
      · have := hl.accept_lt_of_mem his
        omega
      · obtain ⟨j, hj, hij⟩ := IdSet.mem_shift.1 hir
        obtain rfl := Option.some.inj (hr.symm.trans hs)
        exact Nat.add_right_cancel hij ▸ hj
    · exact fun his => .inr ⟨s, hs, IdSet.mem_shift.2 ⟨i, his, rfl⟩⟩

theorem carries_left (h : Merged p pairs m) (hoff : p.left.captures ≤ p.captureOffset)
    (hm : p.left.captures ≤ m.captures) : p.left.Carries m 0 (LeftOf pairs) where
  captures_le := hm
  link := by
    rintro k s x c j ⟨q, hk, hs⟩ hc hj slot hslot b
    obtain ⟨t, ht, -, -, hmarks⟩ := h.exists_pairLink hk hj
    rw [hmarks, mem_marks_together ht, leftLink?_of_left hs, hc, Nat.add_zero]
    constructor
    · rintro (⟨a, ha, hma⟩ | ⟨d, hd, hmd⟩)
      · exact Option.some.inj ha ▸ hma
      · have := le_of_mark_rightLink hd hmd
        simp only at this
        omega
    · exact fun hmc => .inl ⟨c, rfl, hmc⟩
  exit := by
    rintro k s ⟨q, hk, hs⟩ slot hslot b
    rw [h.mem_exit hk, Nat.add_zero]
    constructor
    · rintro (⟨s', hs', hms⟩ | ⟨r, -, hmr⟩)
      · exact Option.some.inj (hs'.symm.trans hs) ▸ hms
      · obtain ⟨n, -, hn⟩ := Marks.mem_shift.1 hmr
        have := congrArg Mark.slot hn
        simp only at this
        omega
    · exact fun hms => .inl ⟨s, hs, hms⟩

theorem carries_right (h : Merged p pairs m) (hl : p.left.WellFormed)
    (hoff : p.left.captures ≤ p.captureOffset)
    (hm : p.right.captures + p.captureOffset ≤ m.captures) :
    p.right.Carries m p.captureOffset (RightOf pairs) where
  captures_le := hm
  link := by
    rintro k s x c j ⟨q, hk, hs⟩ hc hj slot hslot b
    obtain ⟨t, ht, -, -, hmarks⟩ := h.exists_pairLink hk hj
    rw [hmarks, mem_marks_together ht, rightLink?_of_right hs, hc, Option.map_some]
    constructor
    · rintro (⟨a, ha, hma⟩ | ⟨d, hd, hmd⟩)
      · have := lt_of_mark_leftLink hl ha hma
        simp only at this
        omega
      · obtain rfl := Option.some.inj hd
        obtain ⟨n, hn, heq⟩ := Marks.mem_shift.1 hmd
        simp only [Mark.mk.injEq, Nat.add_right_cancel_iff] at heq
        obtain ⟨rfl, rfl⟩ := heq
        exact hn
    · exact fun hmc => .inr ⟨_, rfl, Marks.mem_shift.2 ⟨_, hmc, rfl⟩⟩
  exit := by
    rintro k s ⟨q, hk, hs⟩ slot hslot b
    rw [h.mem_exit hk]
    constructor
    · rintro (⟨s', -, hms⟩ | ⟨r, hr, hmr⟩)
      · have := hl.exit_lt_of_mem hms
        simp only at this
        omega
      · obtain ⟨n, hn, heq⟩ := Marks.mem_shift.1 hmr
        simp only [Mark.mk.injEq, Nat.add_right_cancel_iff] at heq
        obtain ⟨rfl, rfl⟩ := heq
        exact Option.some.inj (hr.symm.trans hs) ▸ hn
    · exact fun hms => .inr ⟨s, hs, Marks.mem_shift.2 ⟨_, hms, rfl⟩⟩

/-- Whatever a state accepts comes from one of its sides. -/
theorem side_of_mem_accept (h : Merged p pairs m) (hl : p.left.WellFormed) (hr : p.right.WellFormed)
    {i : Nat} (hi : i ∈ (m.node k).accept) :
    i < p.left.patterns ∨ ∃ j < p.right.patterns, j + p.idOffset = i := by
  have hlt : k < m.stateCount := by
    by_contra hge
    rw [Automaton.node_of_le (Nat.le_of_not_lt hge)] at hi
    exact SortedSet.not_mem_empty _ hi
  obtain ⟨d, hd⟩ : ∃ d, pairs[k]? = some d := ⟨_, Array.getElem?_eq_getElem (h.size_eq ▸ hlt)⟩
  have hstands : Stands pairs k d.pair := ⟨d, hd, rfl⟩
  rcases (h.mem_accept hstands).1 hi with ⟨s, -, his⟩ | ⟨s, -, his⟩
  · exact .inl (hl.accept_lt_of_mem his)
  · obtain ⟨j, hj, rfl⟩ := IdSet.mem_shift.1 his
    exact .inr ⟨j, hr.accept_lt_of_mem hj, rfl⟩

/-- Whatever survives an edge of a state comes from one of its sides. -/
theorem lt_of_mem_routes (h : Merged p pairs m) (hl : p.left.WellFormed) (hr : p.right.WellFormed)
    (hk : Stands pairs k q) {j : Link} (hj : (m.node k).edges.link? x = some j) {i : Nat}
    (hi : i ∈ j.routes) : i < max p.left.patterns (p.idOffset + p.right.patterns) := by
  obtain ⟨t, ht, -, hroutes, -⟩ := h.exists_pairLink hk hj
  rw [hroutes, mem_routes_together ht] at hi
  rcases hi with ⟨a, ha, hia⟩ | ⟨b, hb, hib⟩
  · have := lt_of_mem_leftLink hl ha hia
    omega
  · obtain ⟨s, -, hs⟩ := Option.bind_eq_some_iff.1 hb
    obtain ⟨c, hc, rfl⟩ := Option.map_eq_some_iff.1 hs
    obtain ⟨i, hi, rfl⟩ := IdSet.mem_shift.1 hib
    have := hr.routes_lt_of_link hc hi
    omega

/-- The ids of a table of merged states come from its sides. -/
theorem lt_of_mem_ids (h : Merged p pairs m) (hl : p.left.WellFormed) (hr : p.right.WellFormed) {n : Node}
    (hn : n ∈ m.nodes) {i : Nat} (hi : i ∈ n.ids) :
    i < max p.left.patterns (p.idOffset + p.right.patterns) := by
  obtain ⟨k, q, hstands, rfl⟩ := h.exists_stands_of_mem hn
  rcases Automaton.exists_of_mem_ids hi with hi | ⟨e, he, hi⟩
  · rcases h.side_of_mem_accept hl hr hi with hlt | ⟨j, hj, rfl⟩ <;> omega
  · have hx : e.contains e.lo = true :=
      Edge.contains_iff.2 ⟨Nat.le_refl _, (m.node k).edges.canonical.nonempty e he⟩
    exact h.lt_of_mem_routes hl hr hstands (EdgeMap.link?_eq_some.2 ⟨e, he, hx, rfl⟩) hi

end Merged

theorem run_merged (hl : p.left.WellFormed) (hr : p.right.WellFormed) {m : Automaton}
    (h : p.run = .ok m) : m.WellFormed ∧
      m.patterns ≤ max 1 (max p.left.patterns (p.idOffset + p.right.patterns)) ∧
      ∃ pairs, Merged p pairs m := by
  obtain ⟨pairs, done, hp, hsize, hflags, hm⟩ := run_numbering hl.linked hr.linked h
  have hnodes : m.nodes = done.nodes := by rw [hm]; rfl
  rw [← hnodes] at hp hsize hm
  have hmerged : Merged p pairs m := by
    refine ⟨hp, by rw [hm]; rfl, hsize, fun hflag k d n hd => hflags ?_ k d n ?_ hd⟩
    · have hany : (done.ambiguous || p.left.ambiguous || p.right.ambiguous) = false := by rwa [hm] at hflag
      rw [Bool.or_eq_false_iff, Bool.or_eq_false_iff] at hany
      exact hany.1.1
    · rw [← hnodes, ← hsize]
      exact (Array.getElem?_eq_some_iff.1 hd).1
  obtain ⟨d, hd, -⟩ := hp.start
  have hpos : 0 < m.stateCount := hmerged.size_eq ▸ (Array.getElem?_eq_some_iff.1 hd).1
  have hpatterns : m.patterns ≤ max 1 (max p.left.patterns (p.idOffset + p.right.patterns)) := by
    rw [hm]
    refine Automaton.boundOf_le (Nat.le_max_left ..) fun i hi => ?_
    obtain ⟨n, hn, hi⟩ := List.mem_flatMap.1 hi
    exact Nat.lt_of_lt_of_le (hmerged.lt_of_mem_ids hl hr (Array.mem_toList_iff.1 hn) hi)
      (Nat.le_max_right ..)
  refine ⟨?_, hpatterns, pairs, hmerged⟩
  rw [hm]
  exact (Automaton.wellFormed_ofNodes hpos fun n hn e he => hmerged.next_lt hn he).withAmbiguous _

end Product

end Polymatch
