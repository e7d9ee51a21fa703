import Polymatch.Proofs.Matcher.Exactness

/-! # Groups inside groups

The visits of a group on a walk lie behind each other. A walk enters the body of a group
between the opening and the closing, so every visit of a group inside lies in a visit of
the group around it. Occurrences that the marks miss change nothing about that: they are
empty, and a later one starts where they start.
-/

namespace Polymatch

namespace Span

/-- Spans between two offsets, none of which starts before the one in front of it ends. -/
structure Spaced (lo hi : Nat) (l : List Span) : Prop where
  bounds : ∀ s ∈ l, lo ≤ s.start ∧ s.start ≤ s.stop ∧ s.stop ≤ hi
  ordered : l.Pairwise (·.stop ≤ ·.start)

variable {lo hi : Nat} {l l' : List Span} {s : Span}

theorem Spaced.sublist (h : Spaced lo hi l) (hl : l'.Sublist l) : Spaced lo hi l' :=
  ⟨fun s hs => h.bounds s (hl.mem hs), h.ordered.sublist hl⟩

theorem Spaced.mono {lo' hi' : Nat} (h : Spaced lo hi l) (hlo : lo' ≤ lo) (hhi : hi ≤ hi') : Spaced lo' hi' l := by
  refine ⟨fun s hs => ?_, h.ordered⟩
  have := h.bounds s hs
  omega

theorem Spaced.cons (hlo : lo ≤ s.start) (hs : s.start ≤ s.stop) (hhi : s.stop ≤ hi) (h : Spaced s.stop hi l) :
    Spaced lo hi (s :: l) where
  bounds := List.forall_mem_cons.2 ⟨⟨hlo, hs, hhi⟩, (h.mono (hlo.trans hs) le_rfl).bounds⟩
  ordered := List.pairwise_cons.2 ⟨fun s' hs' => (h.bounds s' hs').1, h.ordered⟩

theorem distinct_sublist (l : List Span) : (distinct l).Sublist l := List.pwFilter_sublist l

/-- A span that is dropped is empty, and a later one that stays starts where it starts. -/
theorem exists_mem_distinct (hl : Spaced lo hi l) (hs : s ∈ l) :
    ∃ s' ∈ distinct l, s' = s ∨ s'.start = s.start ∧ s.stop = s.start := by
  induction l generalizing s with
  | nil => exact nomatch hs
  | cons a l ih =>
    have hrest : Spaced lo hi l := hl.sublist (List.sublist_cons_self a l)
    rw [distinct_cons]
    split
    · rcases List.mem_cons.1 hs with rfl | hs
      · exact ⟨s, List.mem_cons_self, .inl rfl⟩
      · obtain ⟨s', hs', h⟩ := ih hrest hs
        exact ⟨s', List.mem_cons_of_mem a hs', h⟩
    · rename_i hnot
      rcases List.mem_cons.1 hs with rfl | hs
      · push Not at hnot
        obtain ⟨later, hlater, heq⟩ := hnot
        obtain ⟨s', hs', h⟩ := ih hrest hlater
        have hstart : s'.start = later.start := h.elim (congrArg start) And.left
        have hle := (List.pairwise_cons.1 hl.ordered).1 later hlater
        have hself := hl.bounds s List.mem_cons_self
        exact ⟨s', hs', .inr ⟨hstart.trans heq.symm, by omega⟩⟩
      · exact ih hrest hs

/-- What lies in a span that is dropped is empty, and lies in the later span as well. -/
theorem exists_distinct_around (hl : Spaced lo hi l) (hs : s.start ≤ s.stop)
    (h : ∃ r ∈ l, r.start ≤ s.start ∧ s.stop ≤ r.stop) : ∃ r ∈ distinct l, r.start ≤ s.start ∧ s.stop ≤ r.stop := by
  obtain ⟨r, hr, hstart, hstop⟩ := h
  obtain ⟨r', hr', rfl | ⟨heq, hempty⟩⟩ := exists_mem_distinct hl hr
  · exact ⟨r', hr', hstart, hstop⟩
  · have hbounds := hl.bounds r' ((distinct_sublist l).mem hr')
    exact ⟨r', hr', by omega, by omega⟩

end Span

namespace Beat

open Program (closeLatest)

variable {pos : Nat} {bs bs' : List Beat} {is : List Bool}

/-- Number of symbols that are read. -/
def width : List Beat → Nat
  | [] => 0
  | read _ :: bs => width bs + 1
  | opening :: bs => width bs
  | closing _ :: bs => width bs

/-- The spans of a group in input order. -/
def visits (pos : Nat) (bs : List Beat) : List Span := (perform pos bs []).reverse

theorem width_append (bs bs' : List Beat) : width (bs ++ bs') = width bs + width bs' := by
  induction bs with
  | nil => exact (Nat.zero_add _).symm
  | cons b bs ih =>
    cases b with
    | opening => exact ih
    | closing exclusive => exact ih
    | read inclusive =>
      rw [List.cons_append, width, width, ih]
      omega

theorem width_read (is : List Bool) : width (is.map read) = is.length := by
  induction is with
  | nil => rfl
  | cons i is ih => exact congrArg (· + 1) ih

theorem width_visit (is : List Bool) (exclusive : Bool) (bs : List Beat) :
    width (opening :: (is.map read ++ closing exclusive :: bs)) = is.length + width bs := by
  rw [width, width_append, width_read, width]

theorem perform_append (pos : Nat) (bs bs' : List Beat) (l : List Span) :
    perform pos (bs ++ bs') l = perform (pos + width bs) bs' (perform pos bs l) := by
  induction bs generalizing pos l with
  | nil => rfl
  | cons b bs ih =>
    cases b with
    | opening => exact ih ..
    | closing exclusive => exact ih ..
    | read inclusive =>
      rw [List.cons_append, perform, ih, perform, width, Nat.add_assoc, Nat.add_comm 1]

/-- Visits leave the spans before them as they are. -/
theorem Framed.perform_eq (h : Framed bs) (pos : Nat) (l : List Span) :
    perform pos bs l = perform pos bs [] ++ l := by
  induction h generalizing pos l with
  | nil => rfl
  | quiet _ ih => exact ih ..
  | @visit is exclusive bs _ _ _ ih =>
    rw [perform, perform, perform_visit, perform_visit, closeLatest, closeLatest, ih, ih _ [_], List.append_assoc]
    rfl

theorem Framed.visits_visit (h : Framed bs) (pos : Nat) (is : List Bool) (exclusive : Bool) :
    visits pos (opening :: (is.map read ++ closing exclusive :: bs)) =
      ⟨pos, pos + is.length⟩ :: visits (pos + is.length) bs := by
  rw [visits, perform, perform_visit, closeLatest, h.perform_eq, List.reverse_append]
  rfl

theorem Framed.visits_append (h : Framed bs') (pos : Nat) (bs : List Beat) :
    visits pos (bs ++ bs') = visits pos bs ++ visits (pos + width bs) bs' := by
  rw [visits, perform_append, h.perform_eq, List.reverse_append]
  rfl

/-- The visits of a group lie behind each other. -/
theorem Framed.spaced (h : Framed bs) (pos : Nat) : Span.Spaced pos (pos + width bs) (visits pos bs) := by
  induction h generalizing pos with
  | nil => exact ⟨List.forall_mem_nil _, .nil⟩
  | @quiet bs _ ih =>
    refine (ih (pos + 1)).mono (Nat.le_succ pos) ?_
    rw [width]
    omega
  | @visit is exclusive bs _ _ h ih =>
    rw [h.visits_visit, width_visit, ← Nat.add_assoc]
    exact (ih (pos + is.length)).cons le_rfl (Nat.le_add_right ..) (Nat.le_add_right ..)

end Beat

namespace Event

variable {layout : Layout} {label outer inner : Label} {es es' : List Event} {copies : List (List Event)}

/-- The spans of the group with a label on a walk that starts at an offset, in input order. -/
def visits (layout : Layout) (label : Label) (pos : Nat) (es : List Event) : List Span :=
  Beat.visits pos (beats layout label es)

theorem width_beats (layout : Layout) (label : Label) (es : List Event) :
    Beat.width (beats layout label es) = (word es).length := by
  unfold beats word
  induction es with
  | nil => rfl
  | cons event es ih =>
    rw [List.filterMap_cons, List.filterMap_cons]
    cases event with
    | opening other => by_cases heq : other = label <;> simpa [beat?, symbol?, heq, Beat.width] using ih
    | closing other nullable => by_cases heq : other = label <;> simpa [beat?, symbol?, heq, Beat.width] using ih
    | read x owed => exact congrArg (· + 1) ih

theorem length_claims (slot : Nat) (es : List Event) : (claims slot es).length = (word es).length := by
  rw [claims, word, List.length_filterMap_eq_countP, List.length_filterMap_eq_countP]
  refine congrArg (List.countP · es) (funext fun event => ?_)
  cases event <;> rfl

theorem visits_append (h : Beat.Framed (beats layout label es')) (pos : Nat) : visits layout label pos (es ++ es') =
    visits layout label pos es ++ visits layout label (pos + (word es).length) es' := by
  rw [visits, beats, List.filterMap_append]
  exact (h.visits_append pos _).trans (by rw [← beats, width_beats]; rfl)

/-- Every visit of the inner group lies in a visit of the outer group. -/
structure Nests (layout : Layout) (outer inner : Label) (es : List Event) : Prop where
  framed_outer : Beat.Framed (beats layout outer es)
  framed_inner : Beat.Framed (beats layout inner es)
  within : ∀ pos, ∀ s ∈ visits layout inner pos es,
    ∃ r ∈ visits layout outer pos es, r.start ≤ s.start ∧ s.stop ≤ r.stop

theorem nests_nil : Nests layout outer inner [] := ⟨.nil, .nil, fun _ => List.forall_mem_nil _⟩

theorem Nests.append (h : Nests layout outer inner es) (h' : Nests layout outer inner es') :
    Nests layout outer inner (es ++ es') where
  framed_outer := framed_append h.framed_outer h'.framed_outer
  framed_inner := framed_append h.framed_inner h'.framed_inner
  within pos s hs := by
    rw [visits_append h'.framed_inner] at hs
    rw [visits_append h'.framed_outer]
    rcases List.mem_append.1 hs with hs | hs
    · obtain ⟨r, hr, hsr⟩ := h.within pos s hs
      exact ⟨r, List.mem_append_left _ hr, hsr⟩
    · obtain ⟨r, hr, hsr⟩ := h'.within _ s hs
      exact ⟨r, List.mem_append_right _ hr, hsr⟩

theorem nests_flatten (h : ∀ es ∈ copies, Nests layout outer inner es) : Nests layout outer inner copies.flatten :=
  flatten_of_append (Nests layout outer inner) nests_nil (fun _ _ => Nests.append) h

/-- All that happens inside of a group happens on one visit of the group. -/
theorem nests_group_self {labels : List Label} {owed : Marks} {nullable : Bool}
    (hes : ∀ event ∈ es, event.Within layout labels owed) (hnot : outer ∉ labels) (hne : outer ≠ inner)
    (houter : Beat.Framed (beats layout outer (.opening outer :: (es ++ [.closing outer nullable]))))
    (hinner : Beat.Framed (beats layout inner es)) :
    Nests layout outer inner (.opening outer :: (es ++ [.closing outer nullable])) where
  framed_outer := houter
  framed_inner := by rwa [beats_group_of_ne hne]
  within pos s hs := by
    have hspaced := hinner.spaced pos
    rw [width_beats] at hspaced
    rw [visits, beats_group_of_ne hne] at hs
    rw [visits, beats_group_self hes hnot, Beat.Framed.nil.visits_visit, length_claims]
    obtain ⟨hstart, -, hstop⟩ := hspaced.bounds s hs
    exact ⟨_, List.mem_cons_self, hstart, hstop⟩

theorem Nests.group (h : Nests layout outer inner es) (houter : label ≠ outer) (hinner : label ≠ inner)
    (nullable : Bool) : Nests layout outer inner (.opening label :: (es ++ [.closing label nullable])) where
  framed_outer := by
    rw [beats_group_of_ne houter]
    exact h.framed_outer
  framed_inner := by
    rw [beats_group_of_ne hinner]
    exact h.framed_inner
  within pos s hs := by
    rw [visits, beats_group_of_ne hinner] at hs
    rw [visits, beats_group_of_ne houter]
    exact h.within pos s hs

end Event

namespace Pattern

open Event

mutual

/-- Pairs of groups, the second of which stands inside the first. -/
def nestings : Pattern → List (Label × Label)
  | symbols _ => []
  | sequence items => allNestings items
  | select branches => allNestings branches
  | counted body _ => body.nestings
  | loop body _ _ => body.nestings
  | optional body => body.nestings
  | group label body => body.labels.map (label, ·) ++ body.nestings

def allNestings : List Pattern → List (Label × Label)
  | [] => []
  | p :: rest => p.nestings ++ allNestings rest

end

variable {layout : Layout} {p : Pattern} {owed : Marks} {es : List Event} {outer inner : Label}

mutual

theorem mem_labels_of_nestings : ∀ p : Pattern, (outer, inner) ∈ p.nestings → inner ∈ p.labels
  | symbols _ => fun h => nomatch h
  | sequence items => mem_allLabels_of_allNestings items
  | select branches => mem_allLabels_of_allNestings branches
  | counted body _ => mem_labels_of_nestings body
  | loop body _ _ => mem_labels_of_nestings body
  | optional body => mem_labels_of_nestings body
  | group label body => fun h => by
    refine List.mem_cons_of_mem label ?_
    rcases List.mem_append.1 h with h | h
    · obtain ⟨_, hlabel, heq⟩ := List.mem_map.1 h
      exact (Prod.mk.inj heq).2 ▸ hlabel
    · exact mem_labels_of_nestings body h

theorem mem_allLabels_of_allNestings : ∀ items : List Pattern, (outer, inner) ∈ allNestings items →
    inner ∈ allLabels items
  | [] => fun h => nomatch h
  | item :: rest => fun h => List.mem_append.2
    ((List.mem_append.1 h).imp (mem_labels_of_nestings item) (mem_allLabels_of_allNestings rest))

end

/-- If the inner group stands inside the outer one in some items, it does so in those that have it. -/
theorem nestings_cons {item : Pattern} {rest : List Pattern} (hl : (allLabels (item :: rest)).Nodup)
    (h : inner ∈ allLabels (item :: rest) → (outer, inner) ∈ allNestings (item :: rest)) :
    (inner ∈ item.labels → (outer, inner) ∈ item.nestings) ∧
      (inner ∈ allLabels rest → (outer, inner) ∈ allNestings rest) := by
  obtain ⟨-, -, hdisjoint⟩ := List.nodup_append'.1 hl
  constructor
  · refine fun hmem => (List.mem_append.1 (h (List.mem_append_left _ hmem))).resolve_right fun hrest => ?_
    exact hdisjoint hmem (mem_allLabels_of_allNestings rest hrest)
  · refine fun hmem => (List.mem_append.1 (h (List.mem_append_right _ hmem))).resolve_left fun hitem => ?_
    exact hdisjoint (mem_labels_of_nestings item hitem) hmem

theorem nestings_of_mem {branches : List Pattern} {b : Pattern} (hl : (allLabels branches).Nodup)
    (hb : b ∈ branches) (h : inner ∈ allLabels branches → (outer, inner) ∈ allNestings branches) :
    inner ∈ b.labels → (outer, inner) ∈ b.nestings := by
  induction branches with
  | nil => exact nomatch hb
  | cons c rest ih =>
    obtain ⟨hc, hrest⟩ := nestings_cons hl h
    rcases List.mem_cons.1 hb with rfl | hb
    · exact hc
    · exact ih (List.nodup_append'.1 hl).2.1 hb hrest

/-- A walk visits an inner group only on visits of the groups around it. -/
theorem Walk.nests (h : Walk layout p owed es) (hp : p.Ascending) (hl : p.labels.Nodup)
    (hnest : inner ∈ p.labels → (outer, inner) ∈ p.nestings) (houter : outer ∈ layout.labels)
    (hinner : inner ∈ layout.labels) (howed : ⟨layout.slotOf outer, .endInclusive⟩ ∉ owed)
    (howed' : ⟨layout.slotOf inner, .endInclusive⟩ ∉ owed) : Nests layout outer inner es := by
  induction h with
  | symbols hx =>
    refine ⟨(Walk.symbols hx).framed hp hl houter howed, (Walk.symbols hx).framed hp hl hinner howed', ?_⟩
    exact fun pos s hs => nomatch hs
  | nil => exact nests_nil
  | cons _ _ ih ih' =>
    obtain ⟨hitem, hrest⟩ := nestings_cons hl hnest
    obtain ⟨hl, hl', -⟩ := List.nodup_append'.1 hl
    exact (ih hp.1 hl hitem (not_mem_ite_owed howed) (not_mem_ite_owed howed')).append
      (ih' hp.2 hl' hrest howed howed')
  | select hb _ ih =>
    exact ih (ascending_of_mem hp hb) (hl.sublist (labels_sublist hb)) (nestings_of_mem hl hb hnest) howed howed'
  | counted _ _ ih => exact nests_flatten fun es hes => ih es hes hp.1 hl hnest howed howed'
  | loop _ _ _ ih ih' =>
    exact (nests_flatten fun es hes => ih es hes hp hl hnest howed howed').append
      (nests_flatten fun es hes => ih' es hes hp hl hnest howed howed')
  | skip => exact nests_nil
  | take _ ih => exact ih hp hl hnest howed howed'
  | @group label body owed es hlabel hwalk ih =>
    have hframed := (Walk.group hlabel hwalk).framed hp hl houter howed
    obtain ⟨hnot, hl⟩ := List.nodup_cons.1 hl
    replace hnest : inner ∈ (Pattern.group label body).labels →
        label = outer ∧ inner ∈ body.labels ∨ (outer, inner) ∈ body.nestings := by
      refine fun hmem => (List.mem_append.1 (hnest hmem)).imp_left fun h => ?_
      obtain ⟨_, hinside, heq⟩ := List.mem_map.1 h
      exact ⟨(Prod.mk.inj heq).1, (Prod.mk.inj heq).2 ▸ hinside⟩
    have hne : label ≠ inner := by
      rintro rfl
      exact hnot ((hnest List.mem_cons_self).elim And.right (mem_labels_of_nestings body))
    have howed_inner := not_mem_owed_closing hne hlabel hinner howed'
    by_cases heq : label = outer
    · subst heq
      exact nests_group_self hwalk.within hnot hne hframed (hwalk.framed hp hl hinner howed_inner)
    · have hinside : inner ∈ body.labels → (outer, inner) ∈ body.nestings := fun hmem =>
        (hnest (List.mem_cons_of_mem label hmem)).resolve_left fun h => heq h.1
      have hbody := ih hp hl hinside (not_mem_owed_closing heq hlabel houter howed) howed_inner
      exact hbody.group heq hne body.nullable

end Pattern

/-- The groups of a match are those of a pattern, lie inside of the match in order, and inside of each other
as in the pattern. -/
structure Captured.Arranged (c : Captured) (p : Pattern) : Prop where
  length : c.groups.length = p.labels.length
  spaced : ∀ occurrences ∈ c.groups, Span.Spaced c.span.start c.span.stop occurrences
  nested : ∀ {outer inner : Label} {i j : Nat}, (outer, inner) ∈ p.nestings → p.labels[i]? = some outer →
    p.labels[j]? = some inner → ∀ s ∈ c.group (j + 1), ∃ r ∈ c.group (i + 1), r.start ≤ s.start ∧ s.stop ≤ r.stop

namespace Captured

variable {c : Captured} {p : Pattern}

theorem group_distinct (c : Captured) (k : Nat) : c.distinct.group (k + 1) = Span.distinct (c.group (k + 1)) := by
  rw [group, group, distinct, List.getD_eq_getElem?_getD, List.getD_eq_getElem?_getD, List.getElem?_map]
  cases c.groups[k]? <;> rfl

theorem group_of_getElem? {l : List Span} {k : Nat} (h : c.groups[k]? = some l) : c.group (k + 1) = l := by
  rw [group, List.getD_eq_getElem?_getD, h, Option.getD_some]

/-- The groups of a walk are arranged as in the pattern. -/
theorem arranged_of_walk {es : List Event} (h : p.Walk ⟨p.labels, 0⟩ ∅ es) (hp : p.Ascending) (hl : p.labels.Nodup)
    (pos : Nat) : Arranged ⟨⟨pos, pos + (Event.word es).length⟩,
      (Event.perform ⟨p.labels, 0⟩ pos (List.replicate p.labels.length []) es).map List.reverse⟩ p := by
  have hnone : ∀ m : Mark, m ∉ (∅ : Marks) := SortedSet.not_mem_empty
  have hgroup : ∀ {label : Label} {k : Nat}, p.labels[k]? = some label →
      ((Event.perform ⟨p.labels, 0⟩ pos (List.replicate p.labels.length []) es).map List.reverse)[k]? =
        some (Event.visits ⟨p.labels, 0⟩ label pos es) := by
    intro label k hk
    have hperform := @Event.getElem?_perform_replicate ⟨p.labels, 0⟩ label hl k hk pos es
    rw [List.getElem?_map]
    exact congrArg (Option.map List.reverse) hperform
  refine ⟨?_, fun l hmem => ?_, fun {outer inner i j} hnest hi hj s hs => ?_⟩
  · rw [List.length_map, Event.length_perform, List.length_replicate]
  · obtain ⟨k, hk, rfl⟩ := List.mem_iff_getElem.1 hmem
    have hlt : k < p.labels.length := by
      rwa [List.length_map, Event.length_perform, List.length_replicate] at hk
    have hlabel := List.getElem?_eq_getElem hlt
    have hframed := h.framed hp hl (List.getElem_mem hlt) (hnone _)
    have hspaced := hframed.spaced pos
    rw [Event.width_beats] at hspaced
    rw [Option.some.inj ((List.getElem?_eq_getElem hk).symm.trans (hgroup hlabel))]
    exact hspaced
  · rw [group_of_getElem? (hgroup hj)] at hs
    rw [group_of_getElem? (hgroup hi)]
    exact (h.nests hp hl (fun _ => hnest) (List.mem_of_getElem? hi) (List.mem_of_getElem? hj) (hnone _)
      (hnone _)).within pos s hs

theorem Arranged.spaced_group (h : c.Arranged p) (k : Nat) :
    Span.Spaced c.span.start c.span.stop (c.group (k + 1)) := by
  rw [group, List.getD_eq_getElem?_getD]
  cases hk : c.groups[k]? with
  | none => exact ⟨List.forall_mem_nil _, .nil⟩
  | some l => exact h.spaced l (List.mem_of_getElem? hk)

/-- The latest occurrences at their offsets are arranged as all occurrences are. -/
theorem Arranged.distinct (h : c.Arranged p) : c.distinct.Arranged p where
  length := (List.length_map ..).trans h.length
  spaced := List.forall_mem_map.2 fun l hl => (h.spaced l hl).sublist (Span.distinct_sublist l)
  nested {outer inner i j} hnest hi hj s hs := by
    rw [group_distinct] at hs ⊢
    replace hs := (Span.distinct_sublist _).mem hs
    have hbounds := (h.spaced_group j).bounds s hs
    exact Span.exists_distinct_around (h.spaced_group i) hbounds.2.1 (h.nested hnest hi hj s hs)

end Captured

end Polymatch
