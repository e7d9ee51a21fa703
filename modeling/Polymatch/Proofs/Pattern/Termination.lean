import Polymatch.Proofs.Arena.Termination
import Polymatch.Proofs.Pattern.Clipping

/-! # Compiling comes to an end

Attaching a pattern attaches its parts, one call after the other, and freezing deals
with one node after the other. The arena before and after each of them lies on the way
to the final one, where no node derives from itself.
-/

namespace Polymatch.Pattern

open Arena
open Relation (ReflTransGen)

variable {σ : Alphabet} {layout : Layout}

theorem forall_mem_allClasses {P : List Interval → Prop} {items : List Pattern} :
    (∀ ranges ∈ allClasses items, P ranges) ↔ ∀ p ∈ items, ∀ ranges ∈ p.classes, P ranges := by
  induction items with
  | nil => simp [allClasses]
  | cons p rest ih => rw [allClasses, List.forall_mem_append, ih, List.forall_mem_cons]

theorem attachSequence_append (before after : List Pattern) (tail : Nat) (owed : Marks) (g : Arena) :
    attachSequence σ layout (before ++ after) tail owed g =
      let r := attachSequence σ layout after tail owed g
      attachSequence σ layout before r.1 r.2.1 r.2.2 := by
  induction before with
  | nil => rfl
  | cons item before ih => simp only [List.cons_append, attachSequence, ih]

theorem attachEach_append (before after : List Pattern) (tail : Nat) (owed : Marks) (g : Arena) :
    attachEach σ layout (before ++ after) tail owed g =
      let r := attachEach σ layout before tail owed g
      let r' := attachEach σ layout after tail owed r.2
      (r.1 ++ r'.1, r'.2) := by
  induction before generalizing g with
  | nil => rfl
  | cons branch before ih => simp only [List.cons_append, attachEach, ih]

section Parts

variable {p : Pattern} {items : List Pattern}

theorem attaches_part (owed : Marks) (hp : p.Disjoint) :
    Attaches (p.behave σ layout owed) fun tail g => attach σ layout p tail owed g :=
  attaches_attach owed (overlap?_of_disjoint σ p hp)

theorem attaches_items (owed : Marks) (h : ∀ p ∈ items, p.Disjoint) :
    Attaches (behaveSequence σ layout items owed) fun tail g =>
      ((attachSequence σ layout items tail owed g).1, (attachSequence σ layout items tail owed g).2.2) :=
  attaches_sequence owed (overlapAll?_of_disjoint σ items (forall_mem_allClasses.2 h)).1

theorem attaches_branches (owed : Marks) (h : ∀ p ∈ items, p.Disjoint) :
    AttachesEach (behaveEach σ layout items owed) fun tail g => attachEach σ layout items tail owed g :=
  attaches_each owed (overlapAll?_of_disjoint σ items (forall_mem_allClasses.2 h)).2

end Parts

/-- A pattern that is attached in front of a node. -/
structure Call where
  pattern : Pattern
  tail : Nat
  owed : Marks
  arena : Arena

namespace Call

/-- The node that is answered, and the arena afterwards. -/
def result (σ : Alphabet) (layout : Layout) (c : Call) : Nat × Arena :=
  attach σ layout c.pattern c.tail c.owed c.arena

/-- The first call of a compilation. -/
def start (p : Pattern) : Call := ⟨p, terminal, ∅, .new⟩

structure Sound (c : Call) : Prop where
  disjoint : c.pattern.Disjoint
  wellFormed : c.arena.WellFormed
  tail_lt : c.tail < c.arena.size

theorem Sound.grown {c : Call} (hc : c.Sound) : Grown c.arena (c.result σ layout) :=
  (attaches_part c.owed hc.disjoint).grown hc.wellFormed hc.tail_lt

theorem sound_start {p : Pattern} (hp : p.Disjoint) : (start p).Sound :=
  ⟨hp, wellFormed_new, wellFormed_new.terminal_lt⟩

end Call

/-- While one call is dealt with, the other is made. -/
inductive Calls (σ : Alphabet) (layout : Layout) : Call → Call → Prop
  | item {before after : List Pattern} {p : Pattern} {tail : Nat} {owed : Marks} {g : Arena} :
    Calls σ layout ⟨sequence (before ++ p :: after), tail, owed, g⟩
      (let r := attachSequence σ layout after tail owed g
      ⟨p, r.1, r.2.1, r.2.2⟩)
  | branch {before after : List Pattern} {p : Pattern} {tail : Nat} {owed : Marks} {g : Arena} :
    Calls σ layout ⟨select (before ++ p :: after), tail, owed, g⟩
      ⟨p, tail, owed, (attachEach σ layout before tail owed g).2⟩
  | copy {body : Pattern} {counts before after : List Nat} {k tail : Nat} {owed : Marks} {g : Arena} :
    List.range (counts.getLastD 0) = before ++ k :: after →
    Calls σ layout ⟨counted body counts, tail, owed, g⟩
      (let r := attachCopies (fun tail g => attach σ layout body tail owed g) (hasCount counts) after tail g
      ⟨body, r.1, owed, r.2⟩)
  | once {body : Pattern} {min : Nat} {policy : LoopPolicy} {tail : Nat} {owed : Marks} {g : Arena} :
    Calls σ layout ⟨loop body min policy, tail, owed, g⟩ ⟨body, g.marker.1, owed, g.marker.2⟩
  | again {body : Pattern} {min : Nat} {policy : LoopPolicy} {before after : List Nat} {k tail : Nat}
      {owed : Marks} {g : Arena} :
    min ≠ 0 → List.range (min - 1) = before ++ k :: after →
    Calls σ layout ⟨loop body min policy, tail, owed, g⟩
      (let op := fun tail g => attach σ layout body tail owed g
      let e := attachEntry op policy tail g
      let r := attachCopies op (fun _ => false) after (e.2.unroll g.marker.1) e.2
      ⟨body, r.1, owed, r.2⟩)
  | taken {body : Pattern} {tail : Nat} {owed : Marks} {g : Arena} :
    Calls σ layout ⟨optional body, tail, owed, g⟩ ⟨body, tail, owed, g⟩
  | ungrouped {label : Label} {body : Pattern} {tail : Nat} {owed : Marks} {g : Arena} :
    layout.slotOf? label = none → Calls σ layout ⟨group label body, tail, owed, g⟩ ⟨body, tail, owed, g⟩
  | grouped {label : Label} {body : Pattern} {slot tail : Nat} {owed : Marks} {g : Arena} :
    layout.slotOf? label = some slot → Calls σ layout ⟨group label body, tail, owed, g⟩
      (let r := if body.nullable then g.annotate tail (.closing slot false) else (tail, g)
      ⟨body, r.1, owed ∪ .closing slot true, r.2⟩)

/-- Between two arenas, what a call does to the arena is done. -/
structure Call.Within (σ : Alphabet) (layout : Layout) (c : Call) (g h : Arena) : Prop where
  sound : c.Sound
  before : Writes g c.arena
  after : Writes (c.result σ layout).2 h

/-- A copy that is attached leaves the copies in front of it to be attached. -/
theorem writes_copies {F : Behaviour.Context} {op : Nat → Arena → Nat × Arena} (hF : Attaches F op)
    {g : Arena} {tail : Nat} (hg : g.WellFormed) (ht : tail < g.size) (mayEnd : Nat → Bool)
    (before after : List Nat) (k : Nat) :
    Writes (op (attachCopies op mayEnd after tail g).1 (attachCopies op mayEnd after tail g).2).2
      (attachCopies op mayEnd (before ++ k :: after) tail g).2 := by
  have hrest := (attaches_copies hF mayEnd after).grown hg ht
  have hagain := hF.grown hrest.wellFormed hrest.lt
  have ht' := Nat.lt_of_lt_of_le ht (hrest.grows.trans hagain.grows).size_le
  have hself := Grown.self hagain.wellFormed hagain.lt
  have hothers := grown_copies hF (grown_ending hself ht' (mayEnd k)) ht' mayEnd before
  simp only [attachCopies, List.foldr_append, List.foldr_cons] at hothers ⊢
  exact hothers.grows.writes

section Step

variable {before after : List Pattern} {p : Pattern} {tail : Nat} {owed : Marks} {g : Arena}

theorem within_item (hp : (sequence (before ++ p :: after)).Disjoint) (hg : g.WellFormed) (ht : tail < g.size) :
    let r := attachSequence σ layout after tail owed g
    Call.Within σ layout ⟨p, r.1, r.2.1, r.2.2⟩ g
      (attach σ layout (sequence (before ++ p :: after)) tail owed g).2 := by
  have hitems := forall_mem_allClasses.1 hp
  have hrest : Attaches (behaveSequence σ layout after owed) _ :=
    attaches_items owed fun q hq => hitems q (List.mem_append_right before (List.mem_cons_of_mem p hq))
  have hnext := hrest.grown hg ht
  have hdisjoint : p.Disjoint := hitems p (List.mem_append_right before List.mem_cons_self)
  simp only [attach, attachSequence_append, attachSequence]
  generalize attachSequence σ layout after tail owed g = r at hnext
  obtain ⟨next, owed', g'⟩ := r
  have hsound : Call.Sound ⟨p, next, owed', g'⟩ := ⟨hdisjoint, hnext.wellFormed, hnext.lt⟩
  have hnode : Grown g' (attach σ layout p next owed' g') := hsound.grown
  have hothers : Attaches (behaveSequence σ layout before (if p.nullable then owed' else ∅)) _ :=
    attaches_items _ fun q hq => hitems q (List.mem_append_left (p :: after) hq)
  exact ⟨hsound, hnext.grows.writes, (hothers.grown hnode.wellFormed hnode.lt).grows.writes⟩

theorem within_branch (hp : (select (before ++ p :: after)).Disjoint) (hg : g.WellFormed) (ht : tail < g.size) :
    Call.Within σ layout ⟨p, tail, owed, (attachEach σ layout before tail owed g).2⟩ g
      (attach σ layout (select (before ++ p :: after)) tail owed g).2 := by
  have hbranches := forall_mem_allClasses.1 hp
  have hdisjoint : p.Disjoint := hbranches p (List.mem_append_right before List.mem_cons_self)
  have hfirst : AttachesEach (behaveEach σ layout before owed) _ :=
    attaches_branches owed fun q hq => hbranches q (List.mem_append_left (p :: after) hq)
  have hrest : AttachesEach (behaveEach σ layout after owed) _ :=
    attaches_branches owed fun q hq => hbranches q (List.mem_append_right before (List.mem_cons_of_mem p hq))
  have hall : AttachesEach (behaveEach σ layout (before ++ p :: after) owed) _ := attaches_branches owed hbranches
  have hgrows := hfirst.grows hg ht
  have ht' := Nat.lt_of_lt_of_le ht hgrows.size_le
  have hsound : Call.Sound ⟨p, tail, owed, (attachEach σ layout before tail owed g).2⟩ :=
    ⟨hdisjoint, hfirst.wellFormed hg ht, ht'⟩
  have hnode : Grown _ (attach σ layout p tail owed (attachEach σ layout before tail owed g).2) := hsound.grown
  have hothers := hrest.grows hnode.wellFormed (Nat.lt_of_lt_of_le ht' hnode.grows.size_le)
  have hunion := grown_unionAll (hall.wellFormed hg ht) (hall.lt hg ht)
  refine ⟨hsound, hgrows.writes, ?_⟩
  simp only [Call.result, attach, attachEach_append, attachEach] at hunion ⊢
  exact hothers.writes.trans hunion.grows.writes

end Step

/-- The calls that a call makes lie between its own start and its end. -/
theorem Calls.within {c c' : Call} (h : Calls σ layout c c') (hc : c.Sound) :
    c'.Within σ layout c.arena (c.result σ layout).2 := by
  obtain ⟨hp, hg, ht⟩ := hc
  cases h with
  | item => exact within_item hp hg ht
  | branch => exact within_branch hp hg ht
  | @copy body counts before after k tail owed g hrange =>
    have hbody : Attaches (body.behave σ layout owed) _ := attaches_part owed hp
    have hrest := (attaches_copies hbody (hasCount counts) after).grown hg ht
    refine ⟨⟨hp, hrest.wellFormed, hrest.lt⟩, hrest.grows.writes, ?_⟩
    simp only [Call.result, attach_counted, hrange]
    exact writes_copies hbody hg ht _ before after k
  | @once body min policy tail owed g =>
    have hbody : Attaches (body.behave σ layout owed) _ := attaches_part owed hp
    have hl := @loopClosed _ _ policy _ _ hbody (inward_behave σ layout owed body) hg ht
    refine ⟨⟨hp, hg.marker, marker_lt g⟩, writes_marker g, ?_⟩
    simp only [Call.result, attach_loop]
    exact hl.closed.writes.trans (hl.grown_loop hbody min).grows.writes
  | @again body min policy before after k tail owed g hmin hrange =>
    have hbody : Attaches (body.behave σ layout owed) _ := attaches_part owed hp
    have hl := @loopClosed _ _ policy _ _ hbody (inward_behave σ layout owed body) hg ht
    have hlt := hl.body_lt
    rw [← hl.closed.unroll] at hlt
    have hrest := (attaches_copies hbody (fun _ => false) after).grown hl.closed.wellFormed hlt
    refine ⟨⟨hp, hrest.wellFormed, hrest.lt⟩, hl.grown.grows.writes.trans hrest.grows.writes, ?_⟩
    simp only [Call.result, attach_loop, attachLoop, hmin, if_false, hrange]
    exact writes_copies hbody hl.closed.wellFormed hlt _ before after k
  | @taken body tail owed g =>
    have hsound : Call.Sound ⟨body, tail, owed, g⟩ := ⟨hp, hg, ht⟩
    have htaken : Grown g (attach σ layout body tail owed g) := hsound.grown
    have hunion := grown_union htaken.wellFormed htaken.lt (Nat.lt_of_lt_of_le ht htaken.grows.size_le)
    exact ⟨hsound, .refl, hunion.grows.writes⟩
  | @ungrouped label body tail owed g hslot =>
    refine ⟨⟨hp, hg, ht⟩, .refl, ?_⟩
    simp only [Call.result, attach, hslot]
    exact .refl
  | @grouped label body slot tail owed g hslot =>
    have htail : Grown g (if body.nullable then g.annotate tail (.closing slot false) else (tail, g)) := by
      split
      · exact grown_annotate hg ht
      · exact .self hg ht
    simp only [Call.result, attach, hslot]
    generalize (if body.nullable then g.annotate tail (.closing slot false) else (tail, g)) = r at htail
    obtain ⟨bodyTail, g'⟩ := r
    have hsound : Call.Sound ⟨body, bodyTail, owed ∪ .closing slot true, g'⟩ :=
      ⟨hp, htail.wellFormed, htail.lt⟩
    have hinner : Grown g' (attach σ layout body bodyTail (owed ∪ .closing slot true) g') := hsound.grown
    exact ⟨hsound, htail.grows.writes, (grown_annotate hinner.wellFormed hinner.lt).grows.writes⟩

/-- All calls of a compilation, those that calls make in turn included, lie on its way. -/
theorem within_of_calls {c c' : Call} (h : ReflTransGen (Calls σ layout) c c') (hc : c.Sound) :
    c'.Within σ layout c.arena (c.result σ layout).2 := by
  induction h with
  | refl => exact ⟨hc, .refl, .refl⟩
  | tail _ hcall ih =>
    have hstep := hcall.within ih.sound
    exact ⟨hstep.sound, ih.before.trans hstep.before, hstep.after.trans ih.after⟩

/-- A pattern with disjoint classes and distinct labels compiles, and freezing the node that it is attached as
comes to an end. The arenas before and after each call that attaches a part lie on the way. -/
theorem exists_compile_completes (p : Pattern) (hp : p.Disjoint) (hl : p.labels.Nodup) (σ : Alphabet) :
    ∃ layout start g, p.layout = .ok layout ∧ p.attach σ layout terminal ∅ .new = (start, g) ∧
      p.compile σ = .ok ((g.freeze start).1.withCaptures layout.size) ∧ g.Completes start ∧
      ∀ c, ReflTransGen (Calls σ layout) (.start p) c →
        OnTheWay (g.freeze start).2 c.arena ∧ OnTheWay (g.freeze start).2 (c.result σ layout).2 := by
  have hcompile := compile_of_nodup (overlap?_of_disjoint σ p hp) hl
  have hgrown : Grown .new ((Call.start p).result σ ⟨p.labels, 0⟩) := (Call.sound_start hp).grown
  refine ⟨⟨p.labels, 0⟩, _, _, Layout.ofLabels_of_nodup hl, rfl, hcompile, hgrown.completes, fun c hc => ?_⟩
  have hwithin := within_of_calls hc (Call.sound_start hp)
  have hfrozen := hgrown.completes.onTheWay
  have hafter := hwithin.after.trans hfrozen.after
  exact ⟨⟨hwithin.before, hwithin.sound.grown.grows.writes.trans hafter⟩,
    hwithin.before.trans hwithin.sound.grown.grows.writes, hafter⟩

/-- A loop around loops whose bodies can match nothing, one of them in a group. -/
def loopsInLoop : Pattern :=
  loop (sequence [optional (group [0] (loop (optional (symbols [⟨97, 98⟩, ⟨100, 120⟩])) 1 .extending)),
    loop (loop (symbols [⟨97, 99⟩]) 0 .plain) 0 .limiting]) 0 .plain

theorem exists_compile_completes_loopsInLoop :
    loopsInLoop.Disjoint ∧ loopsInLoop.labels.Nodup ∧
      ∃ layout start g, loopsInLoop.layout = .ok layout ∧
        loopsInLoop.attach .bytes layout terminal ∅ .new = (start, g) ∧
        loopsInLoop.compile .bytes = .ok ((g.freeze start).1.withCaptures layout.size) ∧ g.Completes start ∧
        ∀ c, ReflTransGen (Calls .bytes layout) (.start loopsInLoop) c →
          OnTheWay (g.freeze start).2 c.arena ∧ OnTheWay (g.freeze start).2 (c.result .bytes layout).2 := by
  have hdisjoint : loopsInLoop.Disjoint := by
    have hclass : Interval.Apart ⟨97, 98⟩ ⟨100, 120⟩ := Interval.apart_of_le (by decide)
    simp [Disjoint, loopsInLoop, classes, allClasses, hclass]
  have hlabels : loopsInLoop.labels.Nodup := by decide
  exact ⟨hdisjoint, hlabels, exists_compile_completes loopsInLoop hdisjoint hlabels .bytes⟩

end Polymatch.Pattern
