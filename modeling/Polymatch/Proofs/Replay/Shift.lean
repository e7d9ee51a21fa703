import Polymatch.Proofs.Group.Spans
import Polymatch.Proofs.Replay.Branches

/-! # Replays at other offsets

A replay looks at the symbols of a span, never at its offsets. The same symbols
further on spread the same threads in the same order, with every occurrence moved
up, and so the same groups win.
-/

namespace Polymatch

namespace Program

/-- The same groups, with `d` more symbols in front. -/
def Groups.shift (groups : Groups) (d : Nat) : Groups := groups.map (·.map (·.shift d))

/-- The same thread, with `d` more symbols in front. -/
def Thread.shift (t : Thread) (d : Nat) : Thread := ⟨t.address, Groups.shift t.groups d⟩

variable {p : Program} {pos x d : Nat} {pending out threads : List Thread} {seen seen' : Nat → Prop}

theorem shift_modify (f f' : List Span → List Span)
    (h : ∀ spans : List Span, (f spans).map (·.shift d) = f' (spans.map (·.shift d)))
    (groups : Groups) (group : Nat) :
    Groups.shift (groups.modify group f) d = (Groups.shift groups d).modify group f' := by
  unfold Groups.shift
  apply List.ext_getElem?
  intro i
  simp only [List.getElem?_map, List.getElem?_modify]
  cases groups[i]? with
  | none => rfl
  | some spans =>
    simp only [Option.map_some, Functor.map]
    split
    · rw [h]
    · rfl

theorem shift_openGroup (groups : Groups) (group pos d : Nat) :
    Groups.shift (openGroup groups group pos) d = openGroup (Groups.shift groups d) group (pos + d) :=
  shift_modify (⟨pos, pos⟩ :: ·) (⟨pos + d, pos + d⟩ :: ·) (fun _ => rfl) groups group

theorem shift_closeGroup (groups : Groups) (group pos d : Nat) :
    Groups.shift (closeGroup groups group pos) d = closeGroup (Groups.shift groups d) group (pos + d) := by
  apply shift_modify
  intro spans
  cases spans <;> rfl

theorem fork_shift (p : Program) (pos d : Nat) (t : Thread) :
    p.fork (pos + d) (t.shift d) = (p.fork pos t).map (·.shift d) := by
  unfold fork
  rw [show (t.shift d).address = t.address from rfl]
  cases p.code.getD t.address default with
  | accept => rfl
  | symbols ranges next => rfl
  | split first second => rfl
  | opening group next =>
    simp only [List.map_cons, List.map_nil, Thread.shift, shift_openGroup]
  | closing group next =>
    simp only [List.map_cons, List.map_nil, Thread.shift, shift_closeGroup]

theorem rest_shift (p : Program) (d : Nat) (t : Thread) :
    p.rest (t.shift d) = (p.rest t).map (·.shift d) := by
  unfold rest
  rw [show (t.shift d).address = t.address from rfl]
  cases p.code.getD t.address default <;> rfl

theorem Spreads.shift (h : Spreads p pos seen pending out seen') (d : Nat) :
    Spreads p (pos + d) seen (pending.map (·.shift d)) (out.map (·.shift d)) seen' := by
  induction h with
  | done => exact .done
  | skip hseen _ ih => exact .skip hseen ih
  | enter hseen _ ih =>
    rw [List.map_append, ← fork_shift] at ih
    rw [List.map_append, ← rest_shift]
    exact .enter hseen ih

theorem closure_shift (p : Program) (pos d : Nat) (threads : List Thread) :
    p.closure (pos + d) (threads.map (·.shift d)) = (p.closure pos threads).map (·.shift d) := by
  obtain ⟨seen, h⟩ := p.spreads_closure pos threads
  obtain ⟨seen', h'⟩ := p.spreads_closure (pos + d) (threads.map (·.shift d))
  exact (h'.unique (h.shift d)).1

theorem consume?_shift (p : Program) (x d : Nat) (t : Thread) :
    p.consume? x (t.shift d) = (p.consume? x t).map (·.shift d) := by
  unfold consume?
  rw [show (t.shift d).address = t.address from rfl]
  cases p.code.getD t.address default with
  | symbols ranges next =>
    simp only
    split <;> rfl
  | accept => rfl
  | split first second => rfl
  | opening group next => rfl
  | closing group next => rfl

theorem advance_shift (p : Program) (pos x d : Nat) (threads : List Thread) :
    p.advance (pos + d) x (threads.map (·.shift d)) = (p.advance pos x threads).map (·.shift d) := by
  have hconsumed : (threads.map (·.shift d)).filterMap (p.consume? x) =
      (threads.filterMap (p.consume? x)).map (·.shift d) := by
    rw [List.filterMap_map, List.map_filterMap]
    exact List.filterMap_congr fun t _ => consume?_shift p x d t
  rw [advance_eq, advance_eq, hconsumed, Nat.add_right_comm, closure_shift]

/-- Every step of a replay spreads the same threads, so the same one accepts first. -/
theorem replayFrom_shift (p : Program) (pos d : Nat) (w : List Nat) (threads : List Thread) :
    p.replayFrom (pos + d) w (threads.map (·.shift d)) =
      (p.replayFrom pos w threads).map (Groups.shift · d) := by
  induction w generalizing pos threads with
  | nil =>
    rw [replayFrom, replayFrom, List.find?_map, Option.map_map, Option.map_map]
    rfl
  | cons x w ih => rw [replayFrom_cons, replayFrom_cons, advance_shift, Nat.add_right_comm, ih]

/-- A replay captures the same groups wherever its symbols stand. -/
theorem captures?_shift (p : Program) (start d : Nat) (w : List Nat) :
    p.captures? (start + d) w = (p.captures? start w).map (·.shift d) := by
  have hempty : Groups.shift (List.replicate p.groups []) d = List.replicate p.groups [] := by
    rw [Groups.shift, List.map_replicate, List.map_nil]
  have hreplay : p.replayAt (start + d) (List.replicate p.groups []) w p.start =
      (p.replayAt start (List.replicate p.groups []) w p.start).map (Groups.shift · d) := by
    have h := closure_shift p start d [⟨p.start, List.replicate p.groups []⟩]
    rw [List.map_singleton, Thread.shift, hempty] at h
    rw [replayAt, h, replayFrom_shift, replayAt]
  have hgroups : ∀ groups : Groups, (Groups.shift groups d).map List.reverse =
      (groups.map List.reverse).map (·.map (·.shift d)) := by
    intro groups
    unfold Groups.shift
    rw [List.map_map, List.map_map]
    exact List.map_congr_left fun spans _ => List.map_reverse.symm
  rw [captures?_eq, captures?_eq, hreplay, Option.map_map, Option.map_map]
  apply Option.map_congr
  intro groups _
  simp only [Function.comp, Captured.shift, Span.shift, hgroups, Nat.add_right_comm]

end Program

end Polymatch
