import Mathlib.Data.List.Basic
import Polymatch.Proofs.Group.Spans

/-! # The life of a group

Seen from a single group, a walk is a row of beats: the group is opened, symbols are
read, and it is closed. A replay keeps an occurrence for every visit. The marks of an
automaton are collected between two symbols, so of the visits that start at the same
offset only the last one is recorded, and that is all that they miss.
-/

namespace Polymatch

namespace Boundary

/-- The boundaries in the order in which they take effect, without those that are missing. -/
def pending (opened closed inclusive : Bool) : List Boundary :=
  (if opened then [start] else []) ++ (if closed then [endExclusive] else []) ++
    (if inclusive then [endInclusive] else [])

end Boundary

/-- What happens to a single group. -/
inductive Beat
  | opening
  /-- The group is closed, with a mark in front of the next symbol or without. -/
  | closing (exclusive : Bool)
  /-- A symbol is read, with a mark that closes the group behind it or without. -/
  | read (inclusive : Bool)

namespace Beat

/-- The spans of a group, latest first, if every beat takes effect. -/
def perform : Nat → List Beat → List Span → List Span
  | _, [], l => l
  | pos, opening :: bs, l => perform pos bs (⟨pos, pos⟩ :: l)
  | pos, closing _ :: bs, l => perform pos bs (Program.closeLatest pos l)
  | pos, read _ :: bs, l => perform (pos + 1) bs l

/-- The spans of a group, latest first, if the marks between two symbols are collected. -/
def record (stop : Nat) : Bool → Bool → Nat → List Beat → List Span → List Span
  | o, c, pos, [], l => (Boundary.pending o c false).foldl (Boundary.mark stop pos) l
  | _, c, pos, opening :: bs, l => record stop true c pos bs l
  | o, c, pos, closing exclusive :: bs, l => record stop o (c || exclusive) pos bs l
  | o, c, pos, read inclusive :: bs, l =>
    record stop false false (pos + 1) bs ((Boundary.pending o c inclusive).foldl (Boundary.mark stop pos) l)

/-- The last symbol has a mark that closes the group. -/
def Ends (is : List Bool) : Prop := ∀ i ∈ is.getLast?, i = true

theorem ends_cons {i : Bool} {is : List Bool} : Ends (i :: is) ↔ (is = [] → i = true) ∧ Ends is := by
  cases is with
  | nil => simp [Ends]
  | cons j is => simp [Ends]

theorem Ends.append {is js : List Bool} (hi : js = [] → Ends is) (hj : Ends js) : Ends (is ++ js) := by
  cases js with
  | nil => rw [List.append_nil]; exact hi rfl
  | cons j js =>
    unfold Ends at *
    rw [List.getLast?_append]
    simpa using hj

/-- Visits of a group: the last symbol that is read inside closes it, or there is none and the group
is closed in front of the next symbol. Outside, no symbol closes it. -/
inductive Framed : List Beat → Prop
  | nil : Framed []
  | quiet {bs : List Beat} : Framed bs → Framed (read false :: bs)
  | visit {is : List Bool} {exclusive : Bool} {bs : List Beat} : Ends is → (is = [] → exclusive = true) →
      Framed bs → Framed (opening :: (is.map read ++ closing exclusive :: bs))

theorem Framed.append {bs bs' : List Beat} (h : Framed bs) (h' : Framed bs') : Framed (bs ++ bs') := by
  induction h with
  | nil => exact h'
  | quiet _ ih => exact .quiet ih
  | visit hends hempty _ ih =>
    rw [List.cons_append, List.append_assoc]
    exact .visit hends hempty ih

end Beat

namespace Span

/-- The spans in input order, without those that start where a later one starts. -/
def distinct (l : List Span) : List Span := l.pwFilter (·.start ≠ ·.start)

theorem distinct_eq_self {l : List Span} : distinct l = l ↔ l.Pairwise (·.start ≠ ·.start) :=
  List.pwFilter_eq_self

theorem distinct_cons (s : Span) (l : List Span) :
    distinct (s :: l) = if ∀ s' ∈ l, s.start ≠ s'.start then s :: distinct l else distinct l := by
  have hforall : (∀ s' ∈ distinct l, s.start ≠ s'.start) ↔ ∀ s' ∈ l, s.start ≠ s'.start :=
    List.forall_mem_pwFilter (fun {x y z} hxz => by
      by_contra h
      obtain ⟨hxy, hyz⟩ := not_or.1 h
      exact hxz ((not_not.1 hxy).trans (not_not.1 hyz))) s l
  split
  · exact List.pwFilter_cons_of_pos (hforall.2 ‹_›)
  · exact List.pwFilter_cons_of_neg (mt hforall.1 ‹_›)

theorem distinct_append_singleton (l : List Span) (s : Span) :
    distinct (l ++ [s]) = (distinct l).filter (·.start ≠ s.start) ++ [s] := by
  induction l with
  | nil => rfl
  | cons a l ih =>
    have hall : (∀ s' ∈ l ++ [s], a.start ≠ s'.start) ↔ (∀ s' ∈ l, a.start ≠ s'.start) ∧ a.start ≠ s.start := by
      rw [List.forall_mem_append, List.forall_mem_singleton]
    rw [List.cons_append, distinct_cons, distinct_cons, ih]
    by_cases ha : a.start = s.start
    · rw [if_neg fun h => (hall.1 h).2 ha]
      split
      · rw [List.filter_cons_of_neg (by simp [ha])]
      · rfl
    · by_cases h : ∀ s' ∈ l, a.start ≠ s'.start
      · rw [if_pos (hall.2 ⟨h, ha⟩), if_pos h, List.filter_cons_of_pos (by simp [ha]), List.cons_append]
      · rw [if_neg fun h' => h (hall.1 h').1, if_neg h]

/-- The latest spans that start at an offset, latest first. -/
def latest (l : List Span) : List Span := (distinct l.reverse).reverse

theorem latest_cons (s : Span) (l : List Span) :
    latest (s :: l) = s :: (latest l).filter (·.start ≠ s.start) := by
  rw [latest, List.reverse_cons, distinct_append_singleton, List.reverse_append, List.reverse_singleton,
    List.singleton_append, latest, List.filter_reverse]

end Span

namespace Beat

open Program (closeLatest)

variable {stop pos : Nat} {o c : Bool} {l spans : List Span} {bs : List Beat} {is : List Bool}

/-- Between two visits, the spans that are performed and those that are recorded, with the marks that
were collected since the last symbol. -/
structure Agrees (pos : Nat) (o c : Bool) (spans l : List Span) : Prop where
  before : ∀ s ∈ l, s.start < pos
  opened : o = true → c = true ∧ Span.latest spans = ⟨pos, pos⟩ :: l
  unopened : o = false → Span.latest spans = l ∧ (c = true → closeLatest pos l = l)

theorem Agrees.foldl (h : Agrees pos o c spans l) (stop : Nat) :
    (Boundary.pending o c false).foldl (Boundary.mark stop pos) l = Span.latest spans := by
  cases o with
  | true =>
    obtain ⟨rfl, hspans⟩ := h.opened rfl
    exact hspans.symm
  | false =>
    obtain ⟨hspans, hclose⟩ := h.unopened rfl
    rw [hspans]
    cases c with
    | true => exact hclose rfl
    | false => rfl

/-- A visit hides the visits before it that start at the same offset. -/
theorem Agrees.latest_cons (h : Agrees pos o c spans l) (q : Nat) :
    Span.latest (⟨pos, q⟩ :: spans) = ⟨pos, q⟩ :: l := by
  have hbefore : l.filter (·.start ≠ pos) = l :=
    List.filter_eq_self.2 fun s hs => decide_eq_true (Nat.ne_of_lt (h.before s hs))
  rw [Span.latest_cons]
  cases o with
  | true => rw [(h.opened rfl).2, List.filter_cons_of_neg (by simp), hbefore]
  | false => rw [(h.unopened rfl).1, hbefore]

/-- Behind a symbol outside, no marks are left over. -/
theorem Agrees.quiet (h : Agrees pos o c spans l) : Agrees (pos + 1) false false spans (Span.latest spans) := by
  refine ⟨fun s hs => ?_, nofun, fun _ => ⟨rfl, nofun⟩⟩
  cases o with
  | true =>
    rw [(h.opened rfl).2] at hs
    rcases List.mem_cons.1 hs with rfl | hs
    · exact Nat.lt_succ_self pos
    · exact Nat.lt_succ_of_lt (h.before s hs)
  | false =>
    rw [(h.unopened rfl).1] at hs
    exact Nat.lt_succ_of_lt (h.before s hs)

/-- The mark of the last symbol ends the occurrence where the visit ends. -/
theorem record_visit (hends : Ends is) {s : Span} (hs : is = [] → s.stop = pos) (exclusive : Bool) :
    record stop false false pos (is.map read ++ closing exclusive :: bs) (s :: l) =
      record stop false exclusive (pos + is.length) bs (⟨s.start, pos + is.length⟩ :: l) := by
  induction is generalizing pos s with
  | nil =>
    obtain ⟨start, _⟩ := s
    obtain rfl := hs rfl
    rfl
  | cons i is ih =>
    obtain ⟨hlast, hrest⟩ := ends_cons.1 hends
    rw [List.length_cons, Nat.add_comm is.length, ← Nat.add_assoc]
    cases i with
    | true => exact @ih (pos + 1) hrest ⟨s.start, pos + 1⟩ fun _ => rfl
    | false => exact @ih (pos + 1) hrest s fun h => nomatch hlast h

theorem perform_visit (pos : Nat) (is : List Bool) (exclusive : Bool) (bs : List Beat) (l : List Span) :
    perform pos (is.map read ++ closing exclusive :: bs) l =
      perform (pos + is.length) bs (closeLatest (pos + is.length) l) := by
  induction is generalizing pos with
  | nil => rfl
  | cons i is ih =>
    rw [List.length_cons, Nat.add_comm is.length, ← Nat.add_assoc]
    exact ih (pos + 1)

/-- Of the spans that start at the same offset the latest is recorded. -/
theorem Framed.record_eq (h : Framed bs) (hagrees : Agrees pos o c spans l) :
    record stop o c pos bs l = Span.latest (perform pos bs spans) := by
  induction h generalizing pos o c spans l with
  | nil => exact hagrees.foldl stop
  | quiet _ ih =>
    rw [record, perform, hagrees.foldl]
    exact ih hagrees.quiet
  | @visit is exclusive bs hends hempty _ ih =>
    rw [record, perform, perform_visit]
    cases is with
    | nil =>
      obtain rfl := hempty rfl
      refine ih ⟨hagrees.before, fun _ => ⟨Bool.or_true c, hagrees.latest_cons pos⟩, nofun⟩
    | cons i is =>
      -- the first symbol of the visit takes the collected marks, so the spans before are settled
      obtain ⟨hlast, hends⟩ := ends_cons.1 hends
      have hfirst : ∃ q, (i = true → q = pos + 1) ∧
          (Boundary.pending true c i).foldl (Boundary.mark stop pos) l = ⟨pos, q⟩ :: l := by
        cases i with
        | true => exact ⟨pos + 1, fun _ => rfl, by cases c <;> rfl⟩
        | false =>
          cases c with
          | true => exact ⟨pos, nofun, rfl⟩
          | false => exact ⟨stop, nofun, rfl⟩
      obtain ⟨q, hq, hfold⟩ := hfirst
      rw [List.map_cons, List.cons_append, record, hfold, record_visit hends fun h => hq (hlast h),
        List.length_cons, Nat.add_comm is.length, ← Nat.add_assoc]
      refine ih ⟨List.forall_mem_cons.2 ⟨by simp only; omega, fun s hs => ?_⟩, nofun, fun _ => ⟨?_, fun _ => rfl⟩⟩
      · have := hagrees.before s hs
        omega
      · exact hagrees.latest_cons _

end Beat

end Polymatch
