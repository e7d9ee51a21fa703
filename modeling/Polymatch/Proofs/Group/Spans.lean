import Polymatch.Proofs.Group.Recording
import Polymatch.Replay

/-! # Recorded spans

An occurrence that is still open ends where the match ends. With the end of the
match at hand, a recording is therefore a list of spans for every slot, and the
marks of a run change these lists as the instructions of a replay change its
groups. Nothing in them but the offsets depends on where the run starts.
-/

namespace Polymatch

/-- The same span of a longer input, with `d` more symbols in front. -/
def Span.shift (s : Span) (d : Nat) : Span := ⟨s.start + d, s.stop + d⟩

/-- The same groups of a longer input, with `d` more symbols in front. -/
def Captured.shift (c : Captured) (d : Nat) : Captured :=
  ⟨c.span.shift d, c.groups.map (·.map (·.shift d))⟩

namespace Boundary

/-- The offset that a boundary marks where the current symbol is at `pos`. -/
def offset (pos : Nat) : Boundary → Nat
  | start => pos
  | endExclusive => pos
  | endInclusive => pos + 1

/-- Apply a boundary to the spans of a slot, latest first. Open spans end at `stop`. -/
def mark (stop pos : Nat) (spans : List Span) : Boundary → List Span
  | start => ⟨pos, stop⟩ :: spans
  | endExclusive => Program.closeLatest pos spans
  | endInclusive => Program.closeLatest (pos + 1) spans

variable {stop pos : Nat}

theorem mark_shift (d : Nat) (spans : List Span) (b : Boundary) :
    b.mark (stop + d) (pos + d) (spans.map (·.shift d)) = (b.mark stop pos spans).map (·.shift d) := by
  cases b with
  | start => rfl
  | endExclusive => cases spans <;> rfl
  | endInclusive =>
    cases spans with
    | nil => rfl
    | cons s spans =>
      simp only [mark, Program.closeLatest, List.map_cons, Span.shift, Nat.add_right_comm]

/-- A boundary that marks no offset behind the end of the match does to occurrences what it does to
their spans. -/
theorem map_spanUntil_applyBoundary (hs : stop ≤ maxOffset) {b : Boundary} (hb : b.offset pos ≤ stop)
    (l : List Occurrence) : (Occurrence.applyBoundary pos l b).map (·.spanUntil stop) =
      b.mark stop pos (l.map (·.spanUntil stop)) := by
  have hclose : ∀ n ≤ stop, (Occurrence.applyBoundary.closeLatest n l).map (·.spanUntil stop) =
      Program.closeLatest n (l.map (·.spanUntil stop)) := by
    intro n hn
    cases l with
    | nil => rfl
    | cons o l =>
      -- an end at the greatest offset is taken for none, but then the match ends there, too
      have hend : (if n = maxOffset then none else some n).getD stop = n := by
        split
        · rename_i hmax
          exact le_antisymm (hs.trans hmax.ge) hn
        · rfl
      simp only [Occurrence.applyBoundary.closeLatest, Program.closeLatest, List.map_cons,
        Occurrence.spanUntil, hend]
  cases b with
  | start => rfl
  | endExclusive => exact hclose pos hb
  | endInclusive => exact hclose (pos + 1) hb

theorem map_spanUntil_foldl (hs : stop ≤ maxOffset) {bs : List Boundary}
    (hb : ∀ b ∈ bs, b.offset pos ≤ stop) (l : List Occurrence) :
    (bs.foldl (Occurrence.applyBoundary pos) l).map (·.spanUntil stop) =
      bs.foldl (mark stop pos) (l.map (·.spanUntil stop)) := by
  induction bs generalizing l with
  | nil => rfl
  | cons b bs ih =>
    obtain ⟨hb, hbs⟩ := List.forall_mem_cons.1 hb
    rw [List.foldl_cons, ih hbs, map_spanUntil_applyBoundary hs hb, List.foldl_cons]

theorem foldl_mark_shift (d : Nat) (bs : List Boundary) (spans : List Span) :
    bs.foldl (mark (stop + d) (pos + d)) (spans.map (·.shift d)) =
      (bs.foldl (mark stop pos) spans).map (·.shift d) := by
  induction bs generalizing spans with
  | nil => rfl
  | cons b bs ih => rw [List.foldl_cons, mark_shift, ih, List.foldl_cons]

end Boundary

namespace Recording

variable {slot stop pos : Nat} {t : List (Nat × Marks)} {exit : Marks} {r : Recording}

/-- The spans of a slot, latest first, in a match whose run takes marked edges from a position on and
ends with the marks of an exit. -/
def spans (slot stop : Nat) (exit : Marks) : Nat → List (Nat × Marks) → List Span → List Span
  | _, [], l => ((exit.boundaries slot).map exitBoundary).foldl (Boundary.mark stop stop) l
  | pos, step :: t, l => spans slot stop exit (pos + 1) t ((step.2.boundaries slot).foldl (Boundary.mark stop pos) l)

theorem offset_exitBoundary (pos : Nat) (b : Boundary) : (exitBoundary b).offset pos = pos := by
  cases b <;> rfl

theorem offset_le (pos : Nat) (b : Boundary) : b.offset pos ≤ pos + 1 := by
  cases b with
  | start => exact Nat.le_succ pos
  | endExclusive => exact Nat.le_succ pos
  | endInclusive => exact Nat.le_refl _

/-- A selected slot has the spans of the run, in input order. -/
theorem selectSlot_record (hstop : pos + t.length = stop) (hs : stop ≤ maxOffset) :
    (r.record pos t).selectSlot exit stop slot =
      (spans slot stop exit pos t ((r.occurrences slot).map (·.spanUntil stop))).reverse := by
  induction t generalizing pos r with
  | nil =>
    have hexit : ∀ b ∈ (exit.boundaries slot).map exitBoundary, b.offset stop ≤ stop := by
      intro b hb
      obtain ⟨b, -, rfl⟩ := List.mem_map.1 hb
      rw [offset_exitBoundary]
    rw [selectSlot_eq, List.map_reverse, record, Boundary.map_spanUntil_foldl hs hexit, spans]
  | cons step t ih =>
    rw [List.length_cons] at hstop
    have hle : ∀ b ∈ step.2.boundaries slot, b.offset pos ≤ stop := fun b _ =>
      (offset_le pos b).trans (by omega)
    rw [record, ih (by omega), occurrences_update, Boundary.map_spanUntil_foldl hs hle, spans]

theorem spans_shift (slot stop : Nat) (exit : Marks) (pos : Nat) (t : List (Nat × Marks)) (d : Nat)
    (l : List Span) : spans slot (stop + d) exit (pos + d) t (l.map (·.shift d)) =
      (spans slot stop exit pos t l).map (·.shift d) := by
  induction t generalizing pos l with
  | nil => exact Boundary.foldl_mark_shift d _ l
  | cons step t ih =>
    rw [spans, Boundary.foldl_mark_shift, Nat.add_right_comm, ih, spans]

theorem selectSlot_record_empty (hstop : pos + t.length = stop) (hs : stop ≤ maxOffset) :
    (record ∅ pos t).selectSlot exit stop slot = (spans slot stop exit pos t []).reverse :=
  selectSlot_record hstop hs

/-- The groups of a match do not depend on what is in front of it. -/
theorem select_shift (layout : Layout) (exit : Marks) {d : Nat} (hs : t.length + d ≤ maxOffset) :
    (record ∅ d t).select layout exit ⟨d, t.length + d⟩ =
      ((record ∅ 0 t).select layout exit ⟨0, t.length⟩).shift d := by
  have hslot : ∀ slot, (record ∅ d t).selectSlot exit (t.length + d) slot =
      ((record ∅ 0 t).selectSlot exit t.length slot).map (·.shift d) := by
    intro slot
    have hsmall := spans_shift slot t.length exit 0 t d []
    rw [Nat.zero_add, List.map_nil] at hsmall
    rw [selectSlot_record_empty (Nat.add_comm ..) hs, selectSlot_record_empty (Nat.zero_add _) (by omega),
      List.map_reverse, hsmall]
  have hspan : (⟨d, t.length + d⟩ : Span) = Span.shift ⟨0, t.length⟩ d := by
    rw [Span.shift, Nat.zero_add]
  rw [select, Captured.shift, select, List.map_map, hspan]
  exact congrArg _ (List.map_congr_left fun slot _ => hslot slot)

end Recording

end Polymatch
