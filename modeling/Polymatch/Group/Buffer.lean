import Polymatch.Group.Recording

/-! # Recording buffers

A buffer records the occurrences of one scan after the other. Records carry the stamp of
the scan that wrote them, so a reset need not clear them: a record with another stamp
than the buffer's is stale, reads as empty and is cleared when it is written to. Stamps
are finite; all records are cleared when the stamps start over.
-/

namespace Polymatch

/-- The occurrences of a slot, latest first, with the stamp of the scan that wrote them. -/
structure SlotRecord where
  stamp : UInt32
  occurrences : List Occurrence
  deriving DecidableEq, Repr

namespace SlotRecord

/-- A record that no scan has written; no buffer carries its stamp. -/
def blank : SlotRecord := ⟨0, []⟩

/-- What the record says in a scan. -/
def current (stamp : UInt32) (r : SlotRecord) : List Occurrence := if r.stamp = stamp then r.occurrences else []

/-- Clear a stale record, and apply a boundary. -/
def write (stamp : UInt32) (position : Nat) (boundary : Boundary) (r : SlotRecord) : SlotRecord :=
  ⟨stamp, Occurrence.applyBoundary position (r.current stamp) boundary⟩

@[simp] theorem stamp_write (stamp : UInt32) (position : Nat) (boundary : Boundary) (r : SlotRecord) :
    (r.write stamp position boundary).stamp = stamp := rfl

end SlotRecord

/-- A buffer whose stamp is in use and not older than the stamp of any record. -/
structure Buffer where
  stamp : UInt32
  records : Array SlotRecord
  stamp_ne_zero : stamp ≠ 0
  le_stamp : ∀ r ∈ records, r.stamp ≤ stamp

namespace Buffer

/-- A buffer that has not been used yet. -/
def new : Buffer := ⟨1, #[], by decide, by simp⟩

/-- Forget everything recorded so far. -/
def reset (b : Buffer) : Buffer :=
  if h : b.stamp + 1 = 0 then
    ⟨1, b.records.map fun _ => .blank, by decide, by simp [SlotRecord.blank]⟩
  else
    ⟨b.stamp + 1, b.records, h, fun r hr => by
      have hle := b.le_stamp r hr
      grind⟩

/-- Enough records for a slot. -/
def grow (b : Buffer) (slot : Nat) : Array SlotRecord :=
  if slot < b.records.size then b.records
  else b.records ++ Array.replicate (slot + 1 - b.records.size) .blank

theorem mem_grow {b : Buffer} {slot : Nat} {r : SlotRecord} (h : r ∈ b.grow slot) : r ∈ b.records ∨ r = .blank := by
  rw [grow] at h
  split at h
  · exact .inl h
  · exact (Array.mem_append.1 h).imp_right fun hr => (Array.mem_replicate.1 hr).2

/-- Apply one mark of an edge taken at a position. -/
def record (b : Buffer) (position : Nat) (m : Mark) : Buffer where
  stamp := b.stamp
  records := (b.grow m.slot).modify m.slot (.write b.stamp position m.boundary)
  stamp_ne_zero := b.stamp_ne_zero
  le_stamp r hr := by
    obtain ⟨i, hi⟩ := Array.getElem?_of_mem hr
    rw [Array.getElem?_modify] at hi
    split at hi
    · obtain ⟨old, -, rfl⟩ := Option.map_eq_some_iff.1 hi
      exact UInt32.le_refl _
    · rcases mem_grow (Array.mem_of_getElem? hi) with hr | rfl
      · exact b.le_stamp r hr
      · exact UInt32.zero_le

/-- Apply the marks of an edge taken at a position. -/
def update (b : Buffer) (marks : Marks) (position : Nat) : Buffer := marks.toList.foldl (·.record position) b

/-- What the buffer has recorded since the last reset. -/
def recording (b : Buffer) : Recording := ⟨b.records.map (SlotRecord.current b.stamp)⟩

/-- The closed occurrences of a slot in input order. -/
def closed (b : Buffer) (slot : Nat) : List Span := b.recording.closed slot

/-- The groups of a match with the given span. -/
def select (b : Buffer) (layout : Layout) (exit : Marks) (span : Span) : Captured :=
  b.recording.select layout exit span

end Buffer

end Polymatch
