import Polymatch.Group.Buffer
import Polymatch.Proofs.Group.Recording

/-! # Buffers record one scan at a time

Whatever a buffer recorded before a reset is forgotten: every record is stale, since no record
is newer than the buffer, and stays so until it is written to. So a buffer answers as one that has
not been used before, after the updates since the last reset. Any number of resets is allowed.
-/

namespace Polymatch

namespace Recording

variable {r r' r'' : Recording} {slot : Nat}

/-- Both recordings have the same occurrences of every slot. -/
def Agrees (r r' : Recording) : Prop := ∀ slot, r.occurrences slot = r'.occurrences slot

theorem Agrees.refl (r : Recording) : r.Agrees r := fun _ => rfl

theorem Agrees.symm (h : r.Agrees r') : r'.Agrees r := fun slot => (h slot).symm

theorem Agrees.trans (h : r.Agrees r') (h' : r'.Agrees r'') : r.Agrees r'' := fun slot => (h slot).trans (h' slot)

theorem Agrees.closed_eq (h : r.Agrees r') (slot : Nat) : r.closed slot = r'.closed slot := by
  rw [closed, closed, h slot]

theorem Agrees.select_eq (h : r.Agrees r') (layout : Layout) (exit : Marks) (span : Span) :
    r.select layout exit span = r'.select layout exit span := by
  have hslot : r.selectSlot exit span.stop = r'.selectSlot exit span.stop := funext fun slot => by
    rw [selectSlot, selectSlot, h slot]
  rw [select, select, hslot]

end Recording

namespace Buffer

variable {b : Buffer} {slot : Nat}

theorem current_blank (stamp : UInt32) : SlotRecord.blank.current stamp = [] := by
  rw [SlotRecord.current, SlotRecord.blank, ite_self]

/-- A slot reads as empty where it has no record, or a stale one. -/
theorem occurrences_recording (b : Buffer) (slot : Nat) :
    b.recording.occurrences slot = (b.records.getD slot .blank).current b.stamp := by
  rw [recording, Recording.occurrences, Array.getD_eq_getD_getElem?, Array.getElem?_map,
    Array.getD_eq_getD_getElem?]
  cases b.records[slot]? with
  | none => exact (current_blank b.stamp).symm
  | some r => rfl

theorem recording_new : new.recording.Agrees ∅ := fun slot => by
  rw [occurrences_recording]
  exact current_blank _

/-- A reset leaves no record of the new stamp behind, also where the stamps start over. -/
theorem stamp_ne_of_mem_reset {b : Buffer} {r : SlotRecord} (h : r ∈ b.reset.records) : r.stamp ≠ b.reset.stamp := by
  rw [reset] at h ⊢
  split at h
  · rename_i hover
    obtain ⟨-, -, rfl⟩ := Array.mem_map.1 h
    rw [dif_pos hover]
    exact UInt32.zero_ne_one
  · rename_i hover
    have hle := b.le_stamp r h
    rw [dif_neg hover]
    grind

theorem recording_reset (b : Buffer) : b.reset.recording.Agrees ∅ := fun slot => by
  rw [occurrences_recording, Array.getD_eq_getD_getElem?]
  cases hr : b.reset.records[slot]? with
  | none => exact current_blank _
  | some r => exact if_neg (stamp_ne_of_mem_reset (Array.mem_of_getElem? hr))

/-- A record of the first scan is not read again when the stamps start over. -/
example : let b : Buffer := ⟨0xFFFFFFFF, #[⟨1, [⟨0, some 2⟩]⟩], by decide, by decide⟩
    b.reset.stamp = 1 ∧ b.reset.recording.occurrences 0 = [] := by decide +kernel

theorem getElem?_grow (b : Buffer) (slot : Nat) :
    (b.grow slot)[slot]? = some (b.records.getD slot .blank) := by
  rw [grow, Array.getD_eq_getD_getElem?]
  split
  · rename_i hlt
    rw [Array.getElem?_eq_getElem hlt, Option.getD_some]
  · rename_i hge
    rw [Array.getElem?_append_right (Nat.le_of_not_lt hge), Array.getElem?_replicate, if_pos (by omega),
      Array.getElem?_eq_none (Nat.le_of_not_lt hge), Option.getD_none]

theorem getD_grow (b : Buffer) (slot other : Nat) :
    (b.grow slot).getD other .blank = b.records.getD other .blank := by
  rw [grow]
  split
  · rfl
  · rw [Array.getD_eq_getD_getElem?, Array.getElem?_append, Array.getElem?_replicate, Array.getD_eq_getD_getElem?]
    split
    · rfl
    · rw [Array.getElem?_eq_none (by omega)]
      split <;> rfl

/-- A mark changes the current occurrences of its slot only; what a stale record holds has no effect. -/
theorem occurrences_record (b : Buffer) (pos : Nat) (m : Mark) (slot : Nat) :
    (b.record pos m).recording.occurrences slot =
      if slot = m.slot then Occurrence.applyBoundary pos (b.recording.occurrences slot) m.boundary
      else b.recording.occurrences slot := by
  rw [occurrences_recording, occurrences_recording, record, Array.getD_eq_getD_getElem?, Array.getElem?_modify]
  by_cases h : slot = m.slot
  · subst h
    rw [if_pos rfl, if_pos rfl, getElem?_grow]
    exact if_pos rfl
  · rw [if_neg (Ne.symm h), if_neg h, ← Array.getD_eq_getD_getElem?, getD_grow]

theorem recording_foldl_record (marks : List Mark) {b : Buffer} {r : Recording} (h : b.recording.Agrees r) (pos : Nat) :
    (marks.foldl (·.record pos) b).recording.Agrees (marks.foldl (fun r m =>
      r.put m.slot (Occurrence.applyBoundary pos (r.occurrences m.slot) m.boundary)) r) := by
  induction marks generalizing b r with
  | nil => exact h
  | cons m marks ih =>
    refine ih fun slot => ?_
    rw [occurrences_record, Recording.occurrences_put, h slot]
    split
    · rename_i heq
      rw [heq]
    · rfl

/-- A buffer records what a recording does. -/
theorem recording_update {b : Buffer} {r : Recording} (h : b.recording.Agrees r) (marks : Marks) (pos : Nat) :
    (b.update marks pos).recording.Agrees (r.update marks pos) := recording_foldl_record marks.toList h pos

section Calls

/-- A request to a buffer. -/
inductive Call
  | update (marks : Marks) (position : Nat)
  | reset
  | occurrences (slot : Nat)
  | select (layout : Layout) (exit : Marks) (span : Span)

inductive Answer
  | spans (spans : List Span)
  | captured (captured : Captured)
  deriving DecidableEq

/-- The buffer behind a request. -/
def perform (b : Buffer) : Call → Buffer
  | .update marks position => b.update marks position
  | .reset => b.reset
  | .occurrences _ | .select .. => b

/-- The answer to a request that asks for one. -/
def answer? (b : Buffer) : Call → Option Answer
  | .update .. | .reset => none
  | .occurrences slot => some (.spans (b.closed slot))
  | .select layout exit span => some (.captured (b.select layout exit span))

/-- A buffer that has not been used before, behind some requests. -/
def run (calls : List Call) : Buffer := calls.foldl perform new

/-- The updates still in effect behind a request. -/
def keep (kept : List Call) : Call → List Call
  | .update marks position => kept ++ [.update marks position]
  | .reset => []
  | .occurrences _ | .select .. => kept

/-- The updates among some requests that no reset follows. -/
def pending (calls : List Call) : List Call := calls.foldl keep []

/-- Buffers that agree give the same answers. -/
theorem answer?_eq {b b' : Buffer} (h : b.recording.Agrees b'.recording) (call : Call) : b.answer? call = b'.answer? call := by
  cases call with
  | update | reset => rfl
  | occurrences slot => exact congrArg (some ∘ Answer.spans) (h.closed_eq slot)
  | select layout exit span => exact congrArg (some ∘ Answer.captured) (h.select_eq layout exit span)

/-- One request keeps a buffer in step with one that has only seen the updates in effect. -/
theorem agrees_perform {b : Buffer} {kept : List Call} (h : b.recording.Agrees (run kept).recording) (call : Call) :
    (b.perform call).recording.Agrees (run (keep kept call)).recording := by
  cases call with
  | update marks pos =>
    rw [keep, run, List.foldl_append]
    exact (recording_update h marks pos).trans (recording_update (.refl _) marks pos).symm
  | reset => exact (recording_reset b).trans recording_new.symm
  | occurrences | select => exact h

theorem agrees_foldl {b : Buffer} {kept : List Call} (h : b.recording.Agrees (run kept).recording) (calls : List Call) :
    (calls.foldl perform b).recording.Agrees (run (calls.foldl keep kept)).recording := by
  induction calls generalizing b kept with
  | nil => exact h
  | cons call calls ih => exact ih (agrees_perform h call)

/-- Behind any requests, a buffer answers as one that has only seen the updates since the last reset. -/
theorem answer?_run (calls : List Call) (call : Call) :
    (run calls).answer? call = (run (pending calls)).answer? call := by
  have hnew : new.recording.Agrees (run []).recording := .refl _
  exact answer?_eq (agrees_foldl hnew calls) call

end Calls

end Buffer

end Polymatch
