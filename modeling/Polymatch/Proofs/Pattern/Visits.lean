import Polymatch.Proofs.Group.Beats
import Polymatch.Proofs.Pattern.Spelling
import Polymatch.Proofs.Replay.Tracks

/-! # Visits of groups

On a walk through a pattern, a group is opened and closed in turns. The last symbol
that is read in between owes a mark to the group, and no symbol outside does. So for
every group the marks that a walk spells record what the replay of the walk performs,
but for visits that are hidden by later ones at the same offset.
-/

namespace Polymatch

theorem SortedSet.contains_union (s t : Marks) (m : Mark) :
    (s ∪ t).contains m = (s.contains m || t.contains m) := by
  rw [Bool.eq_iff_iff, Bool.or_eq_true, contains_iff, contains_iff, contains_iff, mem_union]

theorem Marks.boundaries_eq_pending (s : Marks) (slot : Nat) : s.boundaries slot =
    Boundary.pending (s.contains ⟨slot, .start⟩) (s.contains ⟨slot, .endExclusive⟩)
      (s.contains ⟨slot, .endInclusive⟩) := by
  have hascending : ∀ o c i, (Boundary.pending o c i).Pairwise (·.order < ·.order) := by decide
  have hmem : ∀ o c i, (.start ∈ Boundary.pending o c i ↔ o = true) ∧
      (.endExclusive ∈ Boundary.pending o c i ↔ c = true) ∧
      (.endInclusive ∈ Boundary.pending o c i ↔ i = true) := by decide
  refine Boundary.eq_of_ascending (s.boundaries_ascending slot) (hascending _ _ _) fun b => ?_
  obtain ⟨hstart, hexclusive, hinclusive⟩ := hmem (s.contains ⟨slot, .start⟩)
    (s.contains ⟨slot, .endExclusive⟩) (s.contains ⟨slot, .endInclusive⟩)
  rw [mem_boundaries]
  cases b with
  | start => rw [hstart, SortedSet.contains_iff]
  | endExclusive => rw [hexclusive, SortedSet.contains_iff]
  | endInclusive => rw [hinclusive, SortedSet.contains_iff]

/-- Marks that close a slot behind a symbol take effect after those that were collected in front of it. -/
theorem Marks.boundaries_union {owed added : Marks} {slot : Nat} (howed : ∀ m ∈ owed, m.boundary = .endInclusive)
    (hadded : added.contains ⟨slot, .endInclusive⟩ = false) : (owed ∪ added).boundaries slot =
      Boundary.pending (added.contains ⟨slot, .start⟩) (added.contains ⟨slot, .endExclusive⟩)
        (owed.contains ⟨slot, .endInclusive⟩) := by
  have hfront : ∀ b, b ≠ .endInclusive → (owed ∪ added).contains ⟨slot, b⟩ = added.contains ⟨slot, b⟩ := by
    intro b hb
    have hnone : owed.contains ⟨slot, b⟩ = false := Bool.eq_false_iff.2 fun hm =>
      hb (howed _ (SortedSet.contains_iff.1 hm))
    rw [SortedSet.contains_union, hnone, Bool.false_or]
  have hbehind : (owed ∪ added).contains ⟨slot, .endInclusive⟩ = owed.contains ⟨slot, .endInclusive⟩ := by
    rw [SortedSet.contains_union, hadded, Bool.or_false]
  rw [boundaries_eq_pending, hfront .start (by decide), hfront .endExclusive (by decide), hbehind]

namespace Event

variable {layout : Layout} {label : Label} {slot pos : Nat} {es es' : List Event}
  {copies : List (List Event)}

/-- The event is about one of some groups, or owes no marks but some and those that close groups
behind the symbol. -/
def Within (layout : Layout) (labels : List Label) (owed : Marks) : Event → Prop
  | opening label => label ∈ labels ∧ label ∈ layout.labels
  | closing label _ => label ∈ labels ∧ label ∈ layout.labels
  | read _ paid => ∀ m ∈ paid, m ∈ owed ∨ m.boundary = .endInclusive

/-- Whether the symbol that is read closes a slot behind it. -/
def claim? (slot : Nat) : Event → Option Bool
  | read _ owed => some (owed.contains ⟨slot, .endInclusive⟩)
  | _ => none

def claims (slot : Nat) (es : List Event) : List Bool := es.filterMap (claim? slot)

/-- What an event is to the group with a label. -/
def beat? (layout : Layout) (label : Label) : Event → Option Beat
  | opening other => if other = label then some .opening else none
  | closing other nullable => if other = label then some (.closing nullable) else none
  | read _ owed => some (.read (owed.contains ⟨layout.slotOf label, .endInclusive⟩))

def beats (layout : Layout) (label : Label) (es : List Event) : List Beat := es.filterMap (beat? layout label)

theorem claims_eq_nil : claims slot es = [] ↔ word es = [] := by
  unfold claims word
  rw [List.filterMap_eq_nil_iff, List.filterMap_eq_nil_iff]
  refine forall₂_congr fun event _ => ?_
  cases event <;> simp [claim?, symbol?]

theorem Within.mono {labels labels' : List Label} {owed owed' : Marks} {event : Event}
    (h : event.Within layout labels owed) (hlabels : ∀ label ∈ labels, label ∈ labels')
    (howed : ∀ m ∈ owed, m ∈ owed' ∨ m.boundary = .endInclusive) : event.Within layout labels' owed' := by
  cases event with
  | opening label => exact h.imp_left (hlabels label)
  | closing label nullable => exact h.imp_left (hlabels label)
  | read x paid => exact fun m hm => (h m hm).elim (howed m) .inr

/-- A group that is neither opened nor closed only sees symbols. -/
theorem beats_eq_claims {labels : List Label} {owed : Marks} (h : ∀ event ∈ es, event.Within layout labels owed)
    (hlabel : label ∉ labels) : beats layout label es = (claims (layout.slotOf label) es).map .read := by
  unfold beats claims
  rw [List.map_filterMap]
  refine List.filterMap_congr fun event hevent => ?_
  have hwithin := h event hevent
  cases event with
  | opening other => exact if_neg fun heq : other = label => hlabel (heq ▸ hwithin.1)
  | closing other nullable => exact if_neg fun heq : other = label => hlabel (heq ▸ hwithin.1)
  | read x owed => rfl

/-- What happens to a group that is opened and closed around some events. -/
theorem beats_group_self {labels : List Label} {owed : Marks} (h : ∀ event ∈ es, event.Within layout labels owed)
    (hlabel : label ∉ labels) (nullable : Bool) :
    beats layout label (.opening label :: (es ++ [.closing label nullable])) =
      .opening :: ((claims (layout.slotOf label) es).map .read ++ [.closing nullable]) := by
  have hopening : beat? layout label (.opening label) = some .opening := if_pos rfl
  have hclosing : beat? layout label (.closing label nullable) = some (.closing nullable) := if_pos rfl
  rw [beats, List.filterMap_cons_some hopening, List.filterMap_append, ← beats, beats_eq_claims h hlabel,
    List.filterMap_cons_some hclosing, List.filterMap_nil]

theorem beats_group_of_ne {other : Label} (hne : other ≠ label) (nullable : Bool) :
    beats layout label (.opening other :: (es ++ [.closing other nullable])) = beats layout label es := by
  have hopening : beat? layout label (.opening other) = none := if_neg hne
  have hclosing : beat? layout label (.closing other nullable) = none := if_neg hne
  rw [beats, List.filterMap_cons_none hopening, List.filterMap_append, ← beats, List.filterMap_cons_none hclosing,
    List.filterMap_nil, List.append_nil]

theorem framed_append (h : Beat.Framed (beats layout label es)) (h' : Beat.Framed (beats layout label es')) :
    Beat.Framed (beats layout label (es ++ es')) := by
  unfold beats
  rw [List.filterMap_append]
  exact h.append h'

theorem framed_flatten (h : ∀ es ∈ copies, Beat.Framed (beats layout label es)) :
    Beat.Framed (beats layout label copies.flatten) :=
  flatten_of_append (fun es => Beat.Framed (beats layout label es)) .nil (fun _ _ => framed_append) h

theorem ends_append (h : word es' = [] → Beat.Ends (claims slot es)) (h' : Beat.Ends (claims slot es')) :
    Beat.Ends (claims slot (es ++ es')) := by
  unfold claims
  rw [List.filterMap_append]
  exact .append (fun hnil => h (claims_eq_nil.1 hnil)) h'

theorem ends_flatten (h : ∀ es ∈ copies, Beat.Ends (claims slot es)) : Beat.Ends (claims slot copies.flatten) :=
  flatten_of_append (fun es => Beat.Ends (claims slot es)) nofun (fun _ _ h h' => ends_append (fun _ => h) h') h

end Event

namespace Pattern

open Event

variable {layout : Layout} {p : Pattern} {owed : Marks} {es : List Event} {label : Label} {slot : Nat}

/-- A walk opens and closes groups of the pattern, and pays what the pattern owes. -/
theorem Walk.within (h : Walk layout p owed es) : ∀ event ∈ es, event.Within layout p.labels owed := by
  have hflatten : ∀ {copies : List (List Event)} {labels : List Label} {owed : Marks},
      (∀ es ∈ copies, ∀ event ∈ es, event.Within layout labels owed) →
        ∀ event ∈ copies.flatten, event.Within layout labels owed := by
    intro copies labels owed
    apply flatten_of_append fun es => ∀ event ∈ es, event.Within layout labels owed
    · exact List.forall_mem_nil _
    · exact fun _ _ hes hes' => List.forall_mem_append.2 ⟨hes, hes'⟩
  induction h with
  | symbols _ => exact List.forall_mem_singleton.2 fun m hm => .inl hm
  | nil => exact List.forall_mem_nil _
  | cons _ _ ih ih' =>
    refine List.forall_mem_append.2 ⟨fun event hevent => ?_, fun event hevent => ?_⟩
    · refine (ih event hevent).mono (fun label => List.mem_append_left _) fun m hm => .inl ?_
      split at hm
      · exact hm
      · exact absurd hm (SortedSet.not_mem_empty m)
    · exact (ih' event hevent).mono (fun label => List.mem_append_right _) fun m hm => .inl hm
  | select hb _ ih =>
    exact fun event hevent => (ih event hevent).mono (fun label h => (labels_sublist hb).mem h) fun m hm => .inl hm
  | counted _ _ ih => exact hflatten ih
  | loop _ _ _ ih ih' => exact List.forall_mem_append.2 ⟨hflatten ih, hflatten ih'⟩
  | skip => exact List.forall_mem_nil _
  | take _ ih => exact ih
  | @group label body owed es hlabel _ ih =>
    have hself : label ∈ (Pattern.group label body).labels ∧ label ∈ layout.labels := ⟨List.mem_cons_self, hlabel⟩
    refine List.forall_mem_cons.2 ⟨hself, List.forall_mem_append.2 ⟨fun event hevent => ?_, ?_⟩⟩
    · refine (ih event hevent).mono (fun _ => List.mem_cons_of_mem label) fun m hm => ?_
      refine (SortedSet.mem_union.1 hm).imp_right fun hm => ?_
      rw [SortedSet.mem_singleton.1 hm]
      rfl
    · exact List.forall_mem_singleton.2 hself

/-- The last symbol of a walk pays what the pattern owes. -/
theorem Walk.ends (h : Walk layout p owed es) (hp : p.Ascending) (howed : ⟨slot, .endInclusive⟩ ∈ owed) :
    Beat.Ends (claims slot es) := by
  induction h with
  | symbols _ => exact Beat.ends_cons.2 ⟨fun _ => SortedSet.contains_iff.2 howed, nofun⟩
  | nil => exact nofun
  | @cons item rest owed es es' hwalk hwalk' ih ih' =>
    refine ends_append (fun hnil => ih hp.1 ?_) (ih' hp.2 howed)
    have hnullable : allNullable rest = true := hwalk'.nullable hp.2 hnil
    rwa [if_pos hnullable]
  | select hb _ ih => exact ih (ascending_of_mem hp hb) howed
  | counted _ _ ih => exact ends_flatten fun es hes => ih es hes hp.1 howed
  | loop _ _ _ ih ih' =>
    exact ends_append (fun _ => ends_flatten fun es hes => ih es hes hp howed)
      (ends_flatten fun es hes => ih' es hes hp howed)
  | skip => exact nofun
  | take _ ih => exact ih hp howed
  | @group other body owed es _ _ ih =>
    have hclaims : claims slot (.opening other :: (es ++ [.closing other body.nullable])) = claims slot es := by
      rw [claims, List.filterMap_cons_none rfl, List.filterMap_append]
      exact List.append_nil _
    rw [hclaims]
    exact ih hp (SortedSet.mem_union.2 (.inl howed))

theorem not_mem_ite_owed {m : Mark} {nullable : Bool} (h : m ∉ owed) : m ∉ (if nullable then owed else ∅) := by
  split
  · exact h
  · exact SortedSet.not_mem_empty m

/-- A group owes no marks for the groups inside. -/
theorem not_mem_owed_closing {other : Label} (hne : other ≠ label) (hother : other ∈ layout.labels)
    (hlabel : label ∈ layout.labels) (h : ⟨layout.slotOf label, .endInclusive⟩ ∉ owed) :
    ⟨layout.slotOf label, .endInclusive⟩ ∉ owed ∪ .closing (layout.slotOf other) true := by
  refine fun hmem => (SortedSet.mem_union.1 hmem).elim h fun hmem => ?_
  have hslot := congrArg Mark.slot (SortedSet.mem_singleton.1 hmem)
  exact hne (Layout.slotOf_inj hother hlabel hslot.symm)

/-- A walk visits a group of the pattern in turns. -/
theorem Walk.framed (h : Walk layout p owed es) (hp : p.Ascending) (hl : p.labels.Nodup)
    (hlabel : label ∈ layout.labels) (howed : ⟨layout.slotOf label, .endInclusive⟩ ∉ owed) :
    Beat.Framed (beats layout label es) := by
  induction h with
  | @symbols ranges owed x _ =>
    have hbeats : beats layout label [.read x owed] = [.read false] := by
      rw [← Bool.eq_false_iff.2 (mt SortedSet.contains_iff.1 howed)]
      rfl
    rw [hbeats]
    exact .quiet .nil
  | nil => exact .nil
  | @cons item rest owed es es' _ _ ih ih' =>
    obtain ⟨hl, hl', -⟩ := List.nodup_append'.1 hl
    exact framed_append (ih hp.1 hl (not_mem_ite_owed howed)) (ih' hp.2 hl' howed)
  | select hb _ ih => exact ih (ascending_of_mem hp hb) (hl.sublist (labels_sublist hb)) howed
  | counted _ _ ih => exact framed_flatten fun es hes => ih es hes hp.1 hl howed
  | loop _ _ _ ih ih' =>
    exact framed_append (framed_flatten fun es hes => ih es hes hp hl howed)
      (framed_flatten fun es hes => ih' es hes hp hl howed)
  | skip => exact .nil
  | take _ ih => exact ih hp hl howed
  | @group other body owed es hother hwalk ih =>
    obtain ⟨hnot, hl⟩ := List.nodup_cons.1 hl
    by_cases heq : other = label
    · subst heq
      rw [beats_group_self hwalk.within hnot]
      refine .visit (hwalk.ends hp ?_) (fun hnil => hwalk.nullable hp (claims_eq_nil.1 hnil)) .nil
      exact SortedSet.mem_union.2 (.inr (SortedSet.mem_singleton.2 rfl))
    · rw [beats_group_of_ne heq]
      exact ih hp hl (not_mem_owed_closing heq hother hlabel howed)

end Pattern

namespace Event

open Program (Groups)

variable {layout : Layout} {label : Label} {pos stop : Nat} {es : List Event}

theorem overlay_empty (s : Spelling) : overlay ∅ s = s := by
  obtain ⟨_ | ⟨⟨x, M⟩, t⟩, e⟩ := s
  · rw [overlay, SortedSet.union_empty]
  · rw [overlay, SortedSet.union_empty]

theorem overlay_overlay (added added' : Marks) (s : Spelling) :
    overlay added (overlay added' s) = overlay (added' ∪ added) s := by
  obtain ⟨_ | ⟨⟨x, M⟩, t⟩, e⟩ := s
  · rw [overlay, overlay, overlay, SortedSet.union_assoc]
  · rw [overlay, overlay, overlay, SortedSet.union_assoc]

theorem getElem?_modify_idxOf (hlabel : label ∈ layout.labels) (other : Label) (f : List Span → List Span)
    (groups : Groups) : (groups.modify (layout.labels.idxOf other) f)[layout.labels.idxOf label]? =
      if other = label then groups[layout.labels.idxOf label]?.map f else groups[layout.labels.idxOf label]? := by
  rw [List.getElem?_modify]
  split
  · rename_i heq
    rw [if_pos ((List.idxOf_inj hlabel).1 heq.symm).symm]
    rfl
  · rename_i hne
    rw [if_neg fun heq : other = label => hne (heq ▸ rfl)]
    exact Option.map_id'

/-- The replay performs the beats of a group. -/
theorem getElem?_perform (hlabel : label ∈ layout.labels) (pos : Nat) (groups : Groups) (es : List Event) :
    (perform layout pos groups es)[layout.labels.idxOf label]? =
      groups[layout.labels.idxOf label]?.map (Beat.perform pos (beats layout label es)) := by
  induction es generalizing pos groups with
  | nil => exact Option.map_id'.symm
  | cons event es ih =>
    unfold beats
    cases event with
    | opening other =>
      rw [perform, ih, Program.openGroup, getElem?_modify_idxOf hlabel, List.filterMap_cons, beat?]
      split
      · rw [Option.map_map]
        rfl
      · rfl
    | closing other nullable =>
      rw [perform, ih, Program.closeGroup, getElem?_modify_idxOf hlabel, List.filterMap_cons, beat?]
      split
      · rw [Option.map_map]
        rfl
      · rfl
    | read x owed => exact ih ..

/-- In the end the replay of a group has performed its beats. -/
theorem getElem?_perform_replicate (hlayout : layout.labels.Nodup) {i : Nat} (hi : layout.labels[i]? = some label)
    (pos : Nat) (es : List Event) : (perform layout pos (List.replicate layout.size []) es)[i]? =
      some (Beat.perform pos (beats layout label es) []) := by
  obtain ⟨hlt, rfl⟩ := List.getElem?_eq_some_iff.1 hi
  have hperform := getElem?_perform (List.getElem_mem hlt) pos (List.replicate layout.size []) es
  have hsize : i < layout.size := hlt
  rw [hlayout.idxOf_getElem i hlt, List.getElem?_replicate, if_pos hsize] at hperform
  exact hperform

theorem contains_insert (m : Mark) (added : Marks) (m' : Mark) :
    (SortedSet.singleton m ∪ added).contains m' = (decide (m' = m) || added.contains m') := by
  rw [SortedSet.contains_union]
  congr 1
  rw [Bool.eq_iff_iff, SortedSet.contains_iff, SortedSet.mem_singleton, decide_eq_true_iff]

/-- The marks that a walk spells record the beats of a group. -/
theorem spans_spellAll {labels : List Label} (hes : ∀ event ∈ es, event.Within layout labels ∅)
    (hlabel : label ∈ layout.labels) {added : Marks}
    (hadded : added.contains ⟨layout.slotOf label, .endInclusive⟩ = false)
    (hstop : pos + (word es).length = stop) (l : List Span) :
    Recording.spans (layout.slotOf label) stop (overlay added (spellAll layout es ([], ∅))).2 pos
      (overlay added (spellAll layout es ([], ∅))).1 l =
        Beat.record stop (added.contains ⟨layout.slotOf label, .start⟩)
          (added.contains ⟨layout.slotOf label, .endExclusive⟩) pos (beats layout label es) l := by
  induction es generalizing pos added l with
  | nil =>
    have hexit : ∀ o c, (Boundary.pending o c false).map Recording.exitBoundary = Boundary.pending o c false := by
      decide
    obtain rfl : pos = stop := hstop
    rw [spellAll, List.foldr_nil, overlay, SortedSet.empty_union, Recording.spans, Marks.boundaries_eq_pending,
      hadded, hexit]
    rfl
  | cons event es ih =>
    obtain ⟨hevent, hrest⟩ := List.forall_mem_cons.1 hes
    rw [spellAll, List.foldr_cons, ← spellAll]
    unfold beats
    cases event with
    | opening other =>
      rw [spell, overlay_overlay, Marks.opening, ih hrest (by simp [contains_insert, hadded]) hstop, contains_insert,
        contains_insert]
      by_cases heq : other = label
      · have hbeat : beat? layout label (.opening other) = some .opening := if_pos heq
        rw [List.filterMap_cons_some hbeat]
        simp [heq, Beat.record, beats]
      · have hbeat : beat? layout label (.opening other) = none := if_neg heq
        have hslot : layout.slotOf label ≠ layout.slotOf other := fun h =>
          heq (Layout.slotOf_inj hevent.2 hlabel h.symm)
        rw [List.filterMap_cons_none hbeat]
        simp [hslot, beats]
    | closing other nullable =>
      have hslot : other ≠ label → layout.slotOf label ≠ layout.slotOf other := fun hne h =>
        hne (Layout.slotOf_inj hevent.2 hlabel h.symm)
      have hbeat : other = label → beat? layout label (.closing other nullable) = some (.closing nullable) :=
        fun heq => if_pos heq
      have hnone : other ≠ label → beat? layout label (.closing other nullable) = none :=
        fun hne => if_neg hne
      cases nullable with
      | false =>
        rw [spell, if_neg Bool.false_ne_true, ih hrest hadded hstop]
        by_cases heq : other = label
        · rw [List.filterMap_cons_some (hbeat heq), Beat.record, Bool.or_false, beats]
        · rw [List.filterMap_cons_none (hnone heq), beats]
      | true =>
        rw [spell, if_pos rfl, overlay_overlay, Marks.closing, ih hrest (by simp [contains_insert, hadded]) hstop,
          contains_insert, contains_insert]
        by_cases heq : other = label
        · rw [List.filterMap_cons_some (hbeat heq)]
          simp [heq, Beat.record, beats]
        · rw [List.filterMap_cons_none (hnone heq)]
          simp [hslot heq, beats]
    | read x owed =>
      have hpaid : ∀ m ∈ owed, m.boundary = .endInclusive := fun m hm =>
        (hevent m hm).resolve_left (SortedSet.not_mem_empty m)
      have hstop : pos + 1 + (word es).length = stop := by
        rw [← hstop, Nat.add_right_comm]
        rfl
      rw [spell, overlay, Recording.spans, Marks.boundaries_union hpaid hadded]
      have hempty := @ih (pos + 1) hrest ∅ rfl hstop
      simp only [overlay_empty] at hempty
      exact hempty _

/-- On a walk, the marks record the latest of the spans of a group that start at the same offset. -/
theorem spans_walk {p : Pattern} (h : p.Walk layout ∅ es) (hp : p.Ascending) (hl : p.labels.Nodup)
    (hlabel : label ∈ layout.labels) (pos : Nat) :
    Recording.spans (layout.slotOf label) (pos + (word es).length) (spellAll layout es ([], ∅)).2 pos
      (spellAll layout es ([], ∅)).1 [] = Span.latest (Beat.perform pos (beats layout label es) []) := by
  have hspans := @spans_spellAll layout label pos _ es p.labels h.within hlabel ∅ rfl rfl []
  have hframed := h.framed hp hl hlabel (SortedSet.not_mem_empty _)
  rw [overlay_empty] at hspans
  rw [hspans]
  exact hframed.record_eq ⟨List.forall_mem_nil _, nofun, fun _ => ⟨rfl, nofun⟩⟩

end Event

end Polymatch
