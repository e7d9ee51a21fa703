import Polymatch.Proofs.Merge.Survivors
import Polymatch.Proofs.Pattern.Unambiguous

/-! # Groups of merged paths

The edges and exits of merged paths bear the marks of both sides. The merge is
ambiguous if these differ where both sides go on or both accept. If it is not, no
marks of one side get into the groups of the other: a side that has died marks nothing,
and a state that does not accept has no exit.
-/

namespace Polymatch

theorem Marks.shift_zero (s : Marks) : s.shift 0 = s :=
  SortedSet.ext_mem fun m => by simp

namespace Automaton

/-- Wherever the pattern `i` of `a` survives an edge, the pattern `j` of `m` survives one with the same
marks from every related state, to a related state. -/
def Copies (a : Automaton) (i : Nat) (m : Automaton) (j : Nat) (R : Nat → Nat → Prop) : Prop :=
  ∀ k s x c, R k s → a.follow? i s x = some c →
    ∃ d, m.follow? j k x = some d ∧ d.marks = c.marks ∧ R d.next c.next

theorem Copies.exists_trace? {a m : Automaton} {i j k s s' : Nat} {R : Nat → Nat → Prop} {w : List Nat}
    {t : Trace} (h : a.Copies i m j R) (hk : R k s) (ht : a.trace? i s w = some (t, s')) :
    ∃ k', m.trace? j k w = some (t, k') ∧ R k' s' := by
  induction w generalizing k s t with
  | nil =>
    obtain ⟨rfl, rfl⟩ := Prod.mk.inj (Option.some.inj ht)
    exact ⟨k, rfl, hk⟩
  | cons x w ih =>
    obtain ⟨c, hc, ht⟩ := Option.bind_eq_some_iff.1 ht
    obtain ⟨⟨t', s''⟩, ht', hts⟩ := Option.map_eq_some_iff.1 ht
    obtain ⟨rfl, rfl⟩ := Prod.mk.inj hts
    obtain ⟨d, hd, hmarks, hnext⟩ := h k s x c hk hc
    obtain ⟨k', hk', hs'⟩ := ih hnext ht'
    refine ⟨k', ?_, hs'⟩
    rw [trace?, hd, Option.bind_some, hk', hmarks]
    rfl

/-- A pattern accepts an input with the marks of one trace and one exit. -/
theorem Halts.unique {a : Automaton} {i s : Nat} {w : List Nat} {t t' : Trace} {exit exit' : Marks}
    (h : a.Halts i s w t exit) (h' : a.Halts i s w t' exit') : t = t' ∧ exit = exit' := by
  obtain ⟨s₁, ht, -, rfl⟩ := h
  obtain ⟨s₂, ht', -, rfl⟩ := h'
  obtain ⟨rfl, rfl⟩ := Prod.mk.inj (Option.some.inj (ht.symm.trans ht'))
  exact ⟨rfl, rfl⟩

theorem Halts.lt_patterns {a : Automaton} {i s : Nat} {w : List Nat} {t : Trace} {exit : Marks} (ha : a.WellFormed)
    (h : a.Halts i s w t exit) : i < a.patterns := by
  obtain ⟨s', -, hi, -⟩ := h
  exact ha.accept_lt_of_mem hi

theorem WellFormed.stopsAt_stops {a : Automaton} (ha : a.WellFormed) {input : List Nat} {start i : Nat}
    {P : Nat → Marks → Recording → Prop} : StopsAt (a.stops input start) i P ↔
      a.HaltsWithin i a.start start ∅ (input.drop start) P := by
  rw [Automaton.stopsAt_stops, and_iff_right_iff_imp]
  rintro ⟨n, -, t, exit, ht, -⟩
  exact ht.lt_patterns ha

end Automaton

namespace Product

variable {p : Product} {pairs : Array Discovered} {d : Discovered} {n : PairNode} {q : StatePair} {x s t : Nat}

theorem ambiguous_of_both {l r : Node} {depth : Nat} (h : p.both l r depth = .ok n) :
    n.ambiguous = (p.samePattern && ((l.isAccepting && r.isAccepting && l.exit ≠ r.exit.shift p.captureOffset) ||
      (EdgeMap.split l.edges (p.shiftNode r).edges).both.any fun s => s.left.marks ≠ s.right.marks)) := by
  rw [eq_meet_of_both h, ← isAccepting_shiftNode r]
  rfl

section Pairs

variable (h : p.pairNode d = .ok n) (hsame : p.samePattern = true) (hflag : n.ambiguous = false)
include h hsame hflag

/-- Where a pair has met no different marks, both sides mark a shared symbol alike. -/
theorem marks_eq_of_links {a b : Link} (ha : p.leftLink? d.pair x = some a) (hb : p.rightLink? d.pair x = some b) :
    a.marks = b.marks := by
  obtain ⟨⟨l?, r?⟩, depth⟩ := d
  cases l? with
  | none => exact nomatch ha
  | some s => cases r? with
    | none => exact nomatch hb
    | some t =>
      rw [ambiguous_of_both h, hsame, Bool.true_and, Bool.or_eq_false_iff] at hflag
      rw [Merged.rightLink?_of_right rfl, ← link?_shiftNode] at hb
      obtain ⟨e, he, -, rfl, rfl⟩ := EdgeMap.exists_both.2 ⟨ha, hb⟩
      have hmarks : e.left.marks = e.right.marks := by simpa using List.any_eq_false.1 hflag.2 e he
      exact hmarks

/-- Where a pair has met no different marks, both sides exit alike if both accept. -/
theorem exit_eq_of_accepting (hpair : d.pair = ⟨some s, some t⟩) (hs : (p.left.node s).isAccepting = true)
    (ht : (p.right.node t).isAccepting = true) :
    (p.left.node s).exit = (p.right.node t).exit.shift p.captureOffset := by
  obtain ⟨q, depth⟩ := d
  subst hpair
  rw [ambiguous_of_both h, hsame, hs, ht, Bool.true_and, Bool.or_eq_false_iff] at hflag
  simpa using hflag.1

end Pairs

namespace Merged

variable {m : Automaton} {k i : Nat} {w : List Nat} {l : PairLink}
variable (h : Merged p pairs m) (hsame : p.samePattern = true) (hflag : m.ambiguous = false)
include h hsame hflag

theorem marks_left {a : Link} (hk : Stands pairs k q) (ha : p.leftLink? q x = some a)
    (hl : p.pairLink? q x = some l) : l.marks = a.marks := by
  obtain ⟨d, n, hd, rfl, hn, -⟩ := h.exists_pairNode hk
  refine SortedSet.ext_mem fun b => (mem_marks_together hl).trans ⟨?_, fun hb => .inl ⟨a, ha, hb⟩⟩
  rintro (⟨a', ha', hb⟩ | ⟨c, hc, hb⟩)
  · exact Option.some.inj (ha'.symm.trans ha) ▸ hb
  · rwa [marks_eq_of_links hn hsame (h.unflagged hflag k d n hd hn) ha hc]

theorem marks_right {c : Link} (hk : Stands pairs k q) (hc : p.rightLink? q x = some c)
    (hl : p.pairLink? q x = some l) : l.marks = c.marks := by
  obtain ⟨d, n, hd, rfl, hn, -⟩ := h.exists_pairNode hk
  refine SortedSet.ext_mem fun b => (mem_marks_together hl).trans ⟨?_, fun hb => .inr ⟨c, hc, hb⟩⟩
  rintro (⟨a, ha, hb⟩ | ⟨c', hc', hb⟩)
  · rwa [← marks_eq_of_links hn hsame (h.unflagged hflag k d n hd hn) ha hc]
  · exact Option.some.inj (hc'.symm.trans hc) ▸ hb

theorem exit_left (hr : p.right.ExitsAccept) (hk : Stands pairs k q) (hs : q.left? = some s)
    (hi : i ∈ (p.left.node s).accept) : (m.node k).exit = (p.left.node s).exit := by
  obtain ⟨d, n, hd, rfl, hn, -⟩ := h.exists_pairNode hk
  refine SortedSet.ext_mem fun b => (h.mem_exit hk).trans ⟨?_, fun hb => .inl ⟨s, hs, hb⟩⟩
  rintro (⟨s', hs', hb⟩ | ⟨t, ht, hb⟩)
  · exact Option.some.inj (hs'.symm.trans hs) ▸ hb
  · have hpair : d.pair = ⟨some s, some t⟩ := by rw [← hs, ← ht]
    rwa [exit_eq_of_accepting hn hsame (h.unflagged hflag k d n hd hn) hpair
      (Node.isAccepting_iff.2 ⟨i, hi⟩) (hr.isAccepting_of_mem_shift hb)]

theorem exit_right (hl : p.left.ExitsAccept) (hk : Stands pairs k q) (ht : q.right? = some t)
    (hi : i ∈ (p.right.node t).accept) : (m.node k).exit = (p.right.node t).exit.shift p.captureOffset := by
  obtain ⟨d, n, hd, rfl, hn, -⟩ := h.exists_pairNode hk
  refine SortedSet.ext_mem fun b => (h.mem_exit hk).trans ⟨?_, fun hb => .inr ⟨t, ht, hb⟩⟩
  rintro (⟨s, hs, hb⟩ | ⟨t', ht', hb⟩)
  · have hpair : d.pair = ⟨some s, some t⟩ := by rw [← hs, ← ht]
    rwa [← exit_eq_of_accepting hn hsame (h.unflagged hflag k d n hd hn) hpair (hl.isAccepting_of_mem hb)
      (Node.isAccepting_iff.2 ⟨i, hi⟩)]
  · exact Option.some.inj (ht'.symm.trans ht) ▸ hb

theorem copies_left : p.left.Copies i m i (LeftOf pairs) := by
  rintro k s x c ⟨q, hk, hs⟩ hc
  obtain ⟨d, hd, hnext⟩ := h.steps_left k s x c ⟨q, hk, hs⟩ hc
  refine ⟨d, hd, ?_, hnext⟩
  obtain ⟨l, hl, -, -, hmarks⟩ := h.exists_pairLink hk (Automaton.follow?_eq_some.1 hd).1
  have hleft : p.leftLink? q x = some c := (leftLink?_of_left hs).trans (Automaton.follow?_eq_some.1 hc).1
  rw [hmarks, h.marks_left hsame hflag hk hleft hl]

theorem copies_right (hoff : p.captureOffset = 0) : p.right.Copies i m (i + p.idOffset) (RightOf pairs) := by
  rintro k t x c ⟨q, hk, ht⟩ hc
  obtain ⟨d, hd, hnext⟩ := h.steps_right k t x c ⟨q, hk, ht⟩ hc
  refine ⟨d, hd, ?_, hnext⟩
  obtain ⟨l, hl, -, -, hmarks⟩ := h.exists_pairLink hk (Automaton.follow?_eq_some.1 hd).1
  have hright : p.rightLink? q x = some (p.shiftLink c) := by
    rw [rightLink?_of_right ht, (Automaton.follow?_eq_some.1 hc).1, Option.map_some]
  rw [hmarks, h.marks_right hsame hflag hk hright hl, shiftLink, hoff, Marks.shift_zero]

variable {tr : Trace} {exit : Marks}

theorem halts_left (hr : p.right.ExitsAccept) (ht : p.left.Halts i p.left.start w tr exit) :
    m.Halts i m.start w tr exit := by
  obtain ⟨s, ht, hi, rfl⟩ := ht
  obtain ⟨k, hk, q, hstands, hs⟩ := (h.copies_left hsame hflag).exists_trace? ⟨_, h.stands_start, rfl⟩ ht
  exact ⟨k, hk, (h.mem_accept hstands).2 (.inl ⟨s, hs, hi⟩), h.exit_left hsame hflag hr hstands hs hi⟩

theorem halts_right (hl : p.left.ExitsAccept) (hoff : p.captureOffset = 0)
    (ht : p.right.Halts i p.right.start w tr exit) : m.Halts (i + p.idOffset) m.start w tr exit := by
  obtain ⟨s, ht, hi, rfl⟩ := ht
  obtain ⟨k, hk, q, hstands, hs⟩ :=
    (h.copies_right hsame hflag hoff).exists_trace? ⟨_, h.stands_start, rfl⟩ ht
  refine ⟨k, hk, (h.mem_accept hstands).2 (.inr ⟨s, hs, IdSet.mem_shift.2 ⟨i, hi, rfl⟩⟩), ?_⟩
  rw [h.exit_right hsame hflag hl hstands hs hi, hoff, Marks.shift_zero]

end Merged

end Product

namespace Automaton

variable {σ : Alphabet} {a b m : Automaton} {i : Nat} {w : List Nat} {t : Trace} {exit : Marks}

/-- Where merged paths are not ambiguous, a pattern accepts an input with the marks of a side. -/
theorem halts_mergePath_iff (ha : Assembled σ a) (hb : Assembled σ b) (h : (a.mergePath b).ambiguous = false) :
    (a.mergePath b).Halts i (a.mergePath b).start w t exit ↔
      a.Halts i a.start w t exit ∨ b.Halts i b.start w t exit := by
  obtain ⟨hm, -, pairs, hp⟩ :=
    Product.run_merged ha.sound.toWellFormed hb.sound.toWellFormed (run_pathProduct a b)
  have hleft : ∀ {t exit}, a.Halts i a.start w t exit → (a.mergePath b).Halts i (a.mergePath b).start w t exit :=
    hp.halts_left rfl h hb.exitsAccept
  have hright : ∀ {t exit}, b.Halts i b.start w t exit → (a.mergePath b).Halts i (a.mergePath b).start w t exit :=
    hp.halts_right rfl h ha.exitsAccept rfl
  refine ⟨fun hhalts => ?_, Or.rec hleft hright⟩
  have haccepts := mem_accepts_iff_halts.2 ⟨hhalts.lt_patterns hm, t, exit, hhalts⟩
  rw [ha.sound.accepts_union hb.sound, SortedSet.mem_union] at haccepts
  rcases haccepts with hi | hi
  · obtain ⟨-, t', exit', ht⟩ := mem_accepts_iff_halts.1 hi
    obtain ⟨rfl, rfl⟩ := hhalts.unique (hleft ht)
    exact .inl ht
  · obtain ⟨-, t', exit', ht⟩ := mem_accepts_iff_halts.1 hi
    obtain ⟨rfl, rfl⟩ := hhalts.unique (hright ht)
    exact .inr ht

/-- On the inputs that `a` accepts, the run of `m` meets the marks of its run on all edges and at the end. -/
def RecordedBy (a m : Automaton) : Prop :=
  ∀ w, a.isMatch w = true → ∃ t c c', a.record? a.initial w = some (t, c) ∧
    m.record? m.initial w = some (t, c') ∧ (m.node c'.state).exit = (a.node c.state).exit

theorem recordedBy_of_halts (hm : m.WellFormed)
    (h : ∀ i w t exit, a.Halts i a.start w t exit → m.Halts i m.start w t exit) : a.RecordedBy m := by
  intro w hw
  rw [isMatch, Bool.not_eq_true', SortedSet.isEmpty_eq_false] at hw
  obtain ⟨i, hi⟩ := hw
  obtain ⟨hlt, t, exit, hhalts⟩ := mem_accepts_iff_halts.1 hi
  have hlt' := (h i w t exit hhalts).lt_patterns hm
  obtain ⟨s', hs', -, hexit'⟩ := h i w t exit hhalts
  obtain ⟨s, hs, -, hexit⟩ := hhalts
  obtain ⟨c, hc, rfl, -⟩ := record?_of_trace? (c := a.initial) (IdSet.mem_range.2 hlt) hs
  obtain ⟨c', hc', rfl, -⟩ := record?_of_trace? (c := m.initial) (IdSet.mem_range.2 hlt') hs'
  exact ⟨t, c, c', hc, hc', hexit'.trans hexit.symm⟩

/-- Where merged paths are not ambiguous, they meet the marks of either side on what that side accepts. A
pattern accepts at the places where it accepts on some side, with the recording and exit of that side. -/
theorem recordedBy_mergePath (ha : Assembled σ a) (hb : Assembled σ b) (h : (a.mergePath b).ambiguous = false) :
    a.RecordedBy (a.mergePath b) ∧ b.RecordedBy (a.mergePath b) ∧ ∀ input start i P,
      StopsAt ((a.mergePath b).stops input start) i P ↔
        StopsAt (a.stops input start) i P ∨ StopsAt (b.stops input start) i P := by
  have hm := (ha.sound.mergePath hb.sound).toWellFormed
  refine ⟨recordedBy_of_halts hm fun _ _ _ _ ht => (halts_mergePath_iff ha hb h).2 (.inl ht),
    recordedBy_of_halts hm fun _ _ _ _ ht => (halts_mergePath_iff ha hb h).2 (.inr ht), fun input start i P => ?_⟩
  rw [hm.stopsAt_stops, ha.sound.toWellFormed.stopsAt_stops, hb.sound.toWellFormed.stopsAt_stops]
  simp only [HaltsWithin, halts_mergePath_iff ha hb h, or_and_right, and_or_left, exists_or]

/-- A letter in a group, in front of some copies of another one. -/
def letterBefore (n : Nat) : Pattern :=
  .sequence [.group [0] (letters 1), .counted (.symbols [⟨98, 99⟩]) [n]]

/-- Both sides take the first letter for the group, and only one of them goes on. -/
theorem recordedBy_mergePath_letterBefore : ∃ a b, (letterBefore 2).compile .bytes = .ok a ∧
    (letterBefore 1).compile .bytes = .ok b ∧ (a.mergePath b).ambiguous = false ∧
      a.isMatch [97, 98, 98] = true ∧ ∃ c, (a.mergePath b).record? (a.mergePath b).initial [97, 98, 98] =
        some ([(97, .opening 0 ∪ .closing 0 true), (98, ∅), (98, ∅)], c) := by
  have ha : (letterBefore 2).compile .bytes = .ok _ := Pattern.compile_of_nodup (by decide +kernel) (by decide)
  have hb : (letterBefore 1).compile .bytes = .ok _ := Pattern.compile_of_nodup (by decide +kernel) (by decide)
  have hflag : (((letterBefore 2).automaton .bytes ⟨(letterBefore 2).labels, 0⟩).mergePath
      ((letterBefore 1).automaton .bytes ⟨(letterBefore 1).labels, 0⟩)).ambiguous = false := by
    decide +kernel
  have hmatch : ((letterBefore 2).automaton .bytes ⟨(letterBefore 2).labels, 0⟩).isMatch [97, 98, 98] = true := by
    decide +kernel
  have hrecord : ((((letterBefore 2).automaton .bytes ⟨(letterBefore 2).labels, 0⟩).record?
      ((letterBefore 2).automaton .bytes ⟨(letterBefore 2).labels, 0⟩).initial [97, 98, 98]).map Prod.fst) =
        some [(97, .opening 0 ∪ .closing 0 true), (98, ∅), (98, ∅)] := by
    decide +kernel
  generalize (letterBefore 2).automaton .bytes ⟨(letterBefore 2).labels, 0⟩ = a at *
  generalize (letterBefore 1).automaton .bytes ⟨(letterBefore 1).labels, 0⟩ = b at *
  obtain ⟨hleft, -, -⟩ := recordedBy_mergePath (.pattern ha) (.pattern hb) hflag
  obtain ⟨t, c, c', hc, hc', -⟩ := hleft [97, 98, 98] hmatch
  rw [hc, Option.map_some, Option.some.injEq] at hrecord
  obtain rfl := hrecord
  exact ⟨a, b, ha, hb, hflag, hmatch, c', hc'⟩

end Automaton

end Polymatch
