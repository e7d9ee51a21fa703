import Polymatch.Proofs.Arena.Loops

/-! # Attaching patterns

Compiling a pattern in front of a node gives a node that behaves as the pattern in
front of the tail, whatever the arena becomes later. Each constructor of patterns
is settled by what the operation of the arena does that compiles it.
-/

namespace Polymatch.Arena

open Behaviour (Context copies choose silent fixed)

/-- An operation in front of a tail: the arena grows, and in every arena that it becomes the node
answered behaves as the context in front of the tail. -/
structure Attaches (F : Context) (op : Nat → Arena → Nat × Arena) : Prop where
  grown : ∀ {g tail}, g.WellFormed → tail < g.size → Grown g (op tail g)
  behaviour : ∀ {g tail h blocked}, g.WellFormed → tail < g.size → Settles (op tail g).2 h →
    Pending g blocked → behaviour h blocked (op tail g).1 =
      F (behaviour h blocked tail) (behaviour h (fun _ => False) tail)

variable {F G : Context} {op op' : Nat → Arena → Nat × Arena} {policy : LoopPolicy}

/-- What is attached in front of a node attached in turn. -/
theorem Attaches.next (hF : Attaches F op) {g : Arena} {r : Nat × Arena} (hr : Grown g r) :
    Grown g (op r.1 r.2) :=
  (hF.grown hr.wellFormed hr.lt).after hr.grows

section Operations

theorem attaches_nothing : Attaches (fun P _ => P) fun tail g => (tail, g) :=
  ⟨fun hg ht => .self hg ht, fun _ _ _ _ => rfl⟩

theorem attaches_edge {σ : Alphabet} {ranges : List Interval} (ho : classOverlap? σ ranges = none) (marks : Marks) :
    Attaches (fun _ Q => .consume (fun x => Interval.covers ranges x = true ∧ x < σ.limit) marks Q)
      fun tail g => g.edge σ ranges tail marks :=
  ⟨fun hg ht => grown_edge hg ht, fun hg _ hs hp => behaviour_edge ho hg hs hp⟩

theorem attaches_annotate (marks : Marks) :
    Attaches (fun P _ => P.overlay marks) fun tail g => g.annotate tail marks :=
  ⟨fun hg ht => grown_annotate hg ht, fun hg ht hs hp => behaviour_annotate hg ht hs hp⟩

/-- One operation in front of what another one has attached. -/
theorem Attaches.inFront (hF : Attaches F op) (hG : Attaches G op') :
    Attaches (fun P Q => F (G P Q) (G Q Q)) fun tail g => op (op' tail g).1 (op' tail g).2 := by
  refine ⟨fun hg ht => hF.next (hG.grown hg ht), fun hg ht hs hp => ?_⟩
  have hr := hG.grown hg ht
  have hs' := (hF.grown hr.wellFormed hr.lt).grows.trans_settles hs
  rw [hF.behaviour hr.wellFormed hr.lt hs (hp.grows hr.grows.toGrows), hG.behaviour hg ht hs' hp,
    hG.behaviour hg ht hs' (pending_none _)]

/-- The tail may follow at once. -/
theorem Attaches.orTail (hF : Attaches F op) :
    Attaches (fun P Q => .either (F P Q) P) fun tail g => (op tail g).2.union (op tail g).1 tail := by
  refine ⟨fun hg ht => ?_, fun hg ht hs hp => ?_⟩
  all_goals
    have hr := hF.grown hg ht
    have htail := Nat.lt_of_lt_of_le ht hr.grows.size_le
    have hunion := grown_union hr.wellFormed hr.lt htail
  · exact hunion.after hr.grows
  · rw [behaviour_union hr.wellFormed hr.lt htail hs (hp.grows hr.grows.toGrows),
      hF.behaviour hg ht (hunion.grows.trans_settles hs) hp]

theorem Attaches.ending (hF : Attaches F op) (ends : Bool) :
    Attaches (fun P Q => if ends then .either (F P Q) P else F P Q)
      fun tail g => if ends then (op tail g).2.union (op tail g).1 tail else op tail g := by
  cases ends with
  | false => exact hF
  | true => exact hF.orTail

end Operations

/-- Copies of a body in front of each other. -/
def attachCopies (op : Nat → Arena → Nat × Arena) (mayEnd : Nat → Bool) (ks : List Nat) (tail : Nat)
    (g : Arena) : Nat × Arena :=
  ks.foldr (fun k r =>
    let again := op r.1 r.2
    if mayEnd k then again.2.union again.1 tail else again) (tail, g)

theorem grown_ending {g : Arena} {tail : Nat} {r : Nat × Arena} (hr : Grown g r) (ht : tail < g.size)
    (ends : Bool) : Grown g (if ends then r.2.union r.1 tail else r) := by
  split
  · exact (grown_union hr.wellFormed hr.lt (Nat.lt_of_lt_of_le ht hr.grows.size_le)).after hr.grows
  · exact hr

/-- More copies in front of some node. -/
theorem grown_copies (hF : Attaches F op) {g : Arena} {tail : Nat} {r : Nat × Arena} (hr : Grown g r)
    (ht : tail < g.size) (mayEnd : Nat → Bool) (ks : List Nat) :
    Grown g (ks.foldr (fun k r =>
      let again := op r.1 r.2
      if mayEnd k then again.2.union again.1 tail else again) r) := by
  induction ks with
  | nil => exact hr
  | cons k ks ih => exact grown_ending (hF.next ih) ht (mayEnd k)

theorem attaches_copies (hF : Attaches F op) (mayEnd : Nat → Bool) (ks : List Nat) :
    Attaches (copies F mayEnd ks) (attachCopies op mayEnd ks) := by
  induction ks with
  | nil => exact attaches_nothing
  | cons k ks ih => exact (hF.inFront ih).ending (mayEnd k)

/-- The entry of a loop around a body. -/
def attachEntry (op : Nat → Arena → Nat × Arena) (policy : LoopPolicy) (tail : Nat) (g : Arena) :
    Nat × Arena :=
  let once := op g.marker.1 g.marker.2
  once.2.closeLoop g.marker.1 once.1 tail policy

/-- How a loop stands in the arena once it is closed. -/
structure LoopClosed (op : Nat → Arena → Nat × Arena) (policy : LoopPolicy) (tail : Nat) (g : Arena) :
    Prop where
  once : Grown g.marker.2 (op g.marker.1 g.marker.2)
  open_ : (op g.marker.1 g.marker.2).2.recipe g.marker.1 = .marker none
  alone : ∀ b, (op g.marker.1 g.marker.2).2.recipe b = .marker none →
    Reaches (op g.marker.1 g.marker.2).2 (fun _ => False) (op g.marker.1 g.marker.2).1 b → b = g.marker.1
  closed : Closed (op g.marker.1 g.marker.2).2 g.marker.1 (op g.marker.1 g.marker.2).1 tail policy
    (attachEntry op policy tail g)

variable {g h : Arena} {tail : Nat} {blocked : Nat → Prop}

theorem loopClosed (hF : Attaches F op) (hin : Behaviour.Inward F) (hg : g.WellFormed)
    (ht : tail < g.size) : LoopClosed op policy tail g := by
  have honce := hF.grown hg.marker (marker_lt g)
  have hgrow : Grows g (op g.marker.1 g.marker.2).2 := (grows_marker g).trans honce.grows.toGrows
  have hopen : (op g.marker.1 g.marker.2).2.recipe g.marker.1 = .marker none := by
    rw [honce.grows.recipe_eq _ (marker_lt g)]
    exact recipe_marker g
  refine ⟨honce, hopen, ?_, closed_closeLoop honce.wellFormed hopen honce.lt
    (Nat.lt_of_lt_of_le ht hgrow.size_le) fun hreach => ?_⟩
  · intro b hb hr
    have hopens : (behaviour (op g.marker.1 g.marker.2).2 (fun _ => False) (op g.marker.1 g.marker.2).1).opens b :=
      ⟨hb, hr⟩
    rw [hF.behaviour hg.marker (marker_lt g) (.refl _) (pending_none _)] at hopens
    -- the marker leads to no open marker but itself
    obtain ⟨-, marks, hp⟩ := hin hopens
    exact ((path_open hopen).1 hp).2.1
  · -- the tail was there before the marker
    have hold := hgrow.reflTransGen hg ht hreach
    rcases Relation.reflTransGen_iff_eq_or_transGen.1 hold with heq | hold
    · exact absurd ht (heq ▸ Nat.lt_irrefl g.size)
    · obtain ⟨k, -, hk⟩ := Relation.TransGen.tail'_iff.1 hold
      exact Nat.lt_irrefl g.size (hg.operand_lt k _ hk)

theorem Pending.not_marker (hp : Pending g blocked) : ¬ blocked g.marker.1 := fun hb =>
  Nat.lt_irrefl g.size (hp.lt hb)

namespace LoopClosed

variable (hl : LoopClosed op policy tail g)
include hl

theorem grows_once : Grows g (op g.marker.1 g.marker.2).2 :=
  (grows_marker g).trans hl.once.grows.toGrows

theorem body_lt : (op g.marker.1 g.marker.2).1 < (attachEntry op policy tail g).2.size :=
  Nat.lt_of_lt_of_le hl.once.lt hl.closed.settles.size_le

theorem grown : Grown g (attachEntry op policy tail g) where
  wellFormed := hl.closed.wellFormed
  grows := by
    have hgrow := hl.grows_once
    refine ⟨⟨Nat.le_trans hgrow.size_le hl.closed.settles.size_le, fun i hi => ?_, fun i hb hc => ?_⟩,
      fun i hi => ?_, fun hb => hl.closed.blank (hl.once.grows.blank (blank_marker hb)),
      fun i hi => ?_, (writes_marker g).trans (hl.once.grows.writes.trans hl.closed.writes)⟩
    · rw [hl.closed.others i (Nat.lt_of_lt_of_le hi hgrow.size_le) (Nat.ne_of_lt hi)]
      exact hgrow.recipe_eq i hi
    · exact (hgrow.trans_settles hl.closed.settles).content_eq i hb hc
    · -- the marker is closed, and the other new nodes were never open
      rcases Nat.eq_or_lt_of_le hi with rfl | hi
      · exact fun h => nomatch hl.closed.marker.symm.trans h
      · rcases Nat.lt_or_ge i (op g.marker.1 g.marker.2).2.size with hlt | hge
        · rw [hl.closed.others i hlt (Nat.ne_of_gt hi)]
          exact hl.once.grows.closed i (by rw [Arena.marker, size_push]; exact hi)
        · exact hl.closed.fresh i hge
    · rw [hl.closed.bodies i (Nat.lt_of_lt_of_le hi hgrow.size_le) (Nat.ne_of_lt hi)]
      exact hl.once.grows.bodies i (Nat.lt_trans hi (marker_lt g))
  lt := hl.closed.entry_lt

/-- The closed marker behaves as the entry. -/
theorem behaviour_marker (hs : Settles (attachEntry op policy tail g).2 h) (hp : Pending g blocked) :
    behaviour h blocked g.marker.1 = behaviour h blocked (attachEntry op policy tail g).1 :=
  behaviour_entry (hs.recipe_of hl.closed.marker (by simp) (by simp)) hp.not_marker

theorem behaviour_entry_eq (hF : Attaches F op) (hg : g.WellFormed)
    (hs : Settles (attachEntry op policy tail g).2 h) (hp : Pending g blocked) :
    behaviour h blocked (attachEntry op policy tail g).1 = choose policy
      (F silent (behaviour h (fun _ => False) (attachEntry op policy tail g).1)) (behaviour h blocked tail) := by
  have hround : behaviour h blocked (attachEntry op policy tail g).1 = choose policy
      (behaviour h (blocking blocked (.singleton g.marker.1)) (op g.marker.1 g.marker.2).1)
      (behaviour h blocked tail) :=
    behaviour_closeLoop hl.once.wellFormed hl.open_ hl.once.lt hl.closed hl.alone hs (hp.grows hl.grows_once)
  rw [hround]
  have hpending : Pending g.marker.2 (blocking blocked (.singleton g.marker.1)) := by
    rintro b (hb | hb)
    · exact hp.grows (grows_marker g) b hb
    · obtain rfl := SortedSet.mem_singleton.1 hb
      exact recipe_marker g
  rw [hF.behaviour hg.marker (marker_lt g) (hl.closed.settles.trans hs) hpending,
    behaviour_blocked (.inr (SortedSet.mem_singleton.2 rfl)), hl.behaviour_marker hs (pending_none g)]

theorem behaviour_fixed (hF : Attaches F op) (hguard : Behaviour.Guarded F) (hg : g.WellFormed)
    (hs : Settles (attachEntry op policy tail g).2 h) :
    behaviour h (fun _ => False) (attachEntry op policy tail g).1 =
      fixed F policy (behaviour h (fun _ => False) tail) :=
  Behaviour.fixed_unique hguard (hl.behaviour_entry_eq hF hg hs (pending_none g))

end LoopClosed

/-- A loop around a body, with its mandatory rounds unrolled in front of it. -/
def attachLoop (op : Nat → Arena → Nat × Arena) (min : Nat) (policy : LoopPolicy) (tail : Nat)
    (g : Arena) : Nat × Arena :=
  let e := attachEntry op policy tail g
  if min = 0 then e
  else attachCopies op (fun _ => false) (List.range (min - 1)) (e.2.unroll g.marker.1) e.2

/-- The mandatory rounds are attached once the loop is closed. -/
theorem LoopClosed.grown_loop (hl : LoopClosed op policy tail g) (hF : Attaches F op) (min : Nat) :
    Grown (attachEntry op policy tail g).2 (attachLoop op min policy tail g) := by
  simp only [attachLoop]
  split
  · exact .self hl.closed.wellFormed hl.closed.entry_lt
  · rw [hl.closed.unroll]
    exact (attaches_copies hF (fun _ => false) _).grown hl.closed.wellFormed hl.body_lt

theorem attaches_loop (hF : Attaches F op) (hguard : Behaviour.Guarded F) (hin : Behaviour.Inward F)
    (min : Nat) : Attaches (Behaviour.loop F min policy) (attachLoop op min policy) := by
  have hcopies := attaches_copies hF (fun _ => false) (List.range (min - 1))
  refine ⟨fun {g tail} hg ht => ?_, fun {g tail h blocked} hg ht hs hp => ?_⟩
  · have hl : LoopClosed op policy tail g := loopClosed hF hin hg ht
    exact (hl.grown_loop hF min).after hl.grown.grows
  · have hl : LoopClosed op policy tail g := loopClosed hF hin hg ht
    have honce := hl.body_lt
    have hentry : ∀ {blocked}, Settles (attachEntry op policy tail g).2 h → Pending g blocked →
        Arena.behaviour h blocked (attachEntry op policy tail g).1 =
          Behaviour.entry F policy (Arena.behaviour h blocked tail) (Arena.behaviour h (fun _ => False) tail) := by
      intro blocked hs hp
      rw [hl.behaviour_entry_eq hF hg hs hp, hl.behaviour_fixed hF hguard hg hs]
      rfl
    simp only [attachLoop] at hs ⊢
    simp only [Behaviour.loop]
    split at hs
    · rename_i hmin
      rw [if_pos hmin, if_pos hmin]
      exact hentry hs hp
    · rename_i hmin
      rw [if_neg hmin, if_neg hmin]
      rw [hl.closed.unroll] at hs ⊢
      have hs' := (hcopies.grown hl.closed.wellFormed honce).grows.trans_settles hs
      have hbody : ∀ {blocked}, Pending g blocked →
          Arena.behaviour h blocked (op g.marker.1 g.marker.2).1 =
            F (Behaviour.entry F policy (Arena.behaviour h blocked tail) (Arena.behaviour h (fun _ => False) tail))
              (fixed F policy (Arena.behaviour h (fun _ => False) tail)) := by
        intro blocked hp
        rw [hF.behaviour hg.marker (marker_lt g) (hl.closed.settles.trans hs') (hp.grows (grows_marker g)),
          hl.behaviour_marker hs' hp, hl.behaviour_marker hs' (pending_none g), hentry hs' hp,
          hl.behaviour_fixed hF hguard hg hs']
      have hagain : Behaviour.entry F policy (Arena.behaviour h (fun _ => False) tail)
          (Arena.behaviour h (fun _ => False) tail) = fixed F policy (Arena.behaviour h (fun _ => False) tail) :=
        (Behaviour.fixed_eq hguard _).symm
      rw [hcopies.behaviour hl.closed.wellFormed honce hs (hp.grows hl.grown.grows.toGrows), hbody hp,
        hbody (pending_none g), hagain]

end Polymatch.Arena

namespace Polymatch.Pattern

open Arena

variable {σ : Alphabet} {layout : Layout}

theorem attachSequence_owed (items : List Pattern) (tail : Nat) (owed : Marks) (g : Arena) :
    (attachSequence σ layout items tail owed g).2.1 = if allNullable items then owed else ∅ := by
  induction items with
  | nil => simp [attachSequence, allNullable]
  | cons item rest ih =>
    simp only [attachSequence, allNullable, ih, Bool.and_eq_true]
    cases item.nullable <;> simp

theorem attach_counted (body : Pattern) (counts : List Nat) (tail : Nat) (owed : Marks) (g : Arena) :
    attach σ layout (counted body counts) tail owed g =
      attachCopies (fun tail g => attach σ layout body tail owed g) (hasCount counts)
        (List.range (counts.getLastD 0)) tail g := by
  rw [attach]
  rfl

theorem attach_loop (body : Pattern) (min : Nat) (policy : LoopPolicy) (tail : Nat) (owed : Marks)
    (g : Arena) : attach σ layout (loop body min policy) tail owed g =
      attachLoop (fun tail g => attach σ layout body tail owed g) min policy tail g := by
  rw [attach]
  rfl

/-- An operation that answers the nodes of several alternatives in front of a tail. -/
structure AttachesEach (F : Behaviour.Context) (op : Nat → Arena → List Nat × Arena) : Prop where
  wellFormed : ∀ {g tail}, g.WellFormed → tail < g.size → (op tail g).2.WellFormed
  grows : ∀ {g tail}, g.WellFormed → tail < g.size → Builds g (op tail g).2
  lt : ∀ {g tail}, g.WellFormed → tail < g.size → ∀ i ∈ (op tail g).1, i < (op tail g).2.size
  behaviour : ∀ {g tail h blocked}, g.WellFormed → tail < g.size → Settles (op tail g).2 h →
    Pending g blocked → .oneOf ((op tail g).1.map (Arena.behaviour h blocked)) =
      F (Arena.behaviour h blocked tail) (Arena.behaviour h (fun _ => False) tail)

namespace AttachesEach

variable {F G : Behaviour.Context} {op : Nat → Arena → Nat × Arena} {ops : Nat → Arena → List Nat × Arena}

theorem nil : AttachesEach (fun _ _ => .silent) fun _ g => ([], g) :=
  ⟨fun hg _ => hg, fun _ _ => .refl _, fun _ _ => List.forall_mem_nil _, fun _ _ _ _ => rfl⟩

theorem cons (hF : Attaches F op) (hG : AttachesEach G ops) :
    AttachesEach (fun P Q => .either (F P Q) (G P Q)) fun tail g =>
      ((op tail g).1 :: (ops tail (op tail g).2).1, (ops tail (op tail g).2).2) := by
  refine ⟨fun hg ht => ?_, fun hg ht => ?_, fun hg ht => ?_, fun hg ht hs hp => ?_⟩
  all_goals
    have hfirst := hF.grown hg ht
    have ht' := Nat.lt_of_lt_of_le ht hfirst.grows.size_le
    have hgrows := hG.grows hfirst.wellFormed ht'
  · exact hG.wellFormed hfirst.wellFormed ht'
  · exact hfirst.grows.trans hgrows
  · exact List.forall_mem_cons.2 ⟨Nat.lt_of_lt_of_le hfirst.lt hgrows.size_le, hG.lt hfirst.wellFormed ht'⟩
  · rw [List.map_cons, ← hF.behaviour hg ht (hgrows.trans_settles hs) hp,
      ← hG.behaviour hfirst.wellFormed ht' hs (hp.grows hfirst.grows.toGrows)]
    rfl

theorem unionAll (hF : AttachesEach F ops) : Attaches F fun tail g => (ops tail g).2.unionAll (ops tail g).1 := by
  refine ⟨fun hg ht => ?_, fun hg ht hs hp => ?_⟩
  all_goals
    have hwf := hF.wellFormed hg ht
    have hgrows := hF.grows hg ht
    have hunion := grown_unionAll hwf (hF.lt hg ht)
  · exact hunion.after hgrows
  · rw [behaviour_unionAll hwf (hF.lt hg ht) hs (hp.grows hgrows.toGrows)]
    exact hF.behaviour hg ht (hunion.grows.trans_settles hs) hp

end AttachesEach

mutual

/-- A pattern without overlapping classes is attached as the behaviour it stands for. -/
theorem attaches_attach (owed : Marks) : ∀ {p : Pattern}, p.overlap? σ = none →
    Attaches (p.behave σ layout owed) fun tail g => attach σ layout p tail owed g
  | symbols ranges => fun ho => by
    rw [overlap?] at ho
    simpa only [attach, behave] using attaches_edge ho owed
  | sequence items => fun ho => by
    rw [overlap?] at ho
    simpa only [attach, behave] using attaches_sequence owed ho
  | select branches => fun ho => by
    rw [overlap?] at ho
    simpa only [attach, behave] using (attaches_each owed ho).unionAll
  | counted body counts => fun ho => by
    rw [overlap?] at ho
    simp only [attach_counted, behave]
    split at ho
    · rename_i hlast
      rw [hlast]
      exact attaches_nothing
    · exact attaches_copies (attaches_attach owed ho) _ _
  | loop body min policy => fun ho => by
    rw [overlap?] at ho
    simp only [attach_loop, behave]
    exact attaches_loop (attaches_attach owed ho) (guarded_behave σ layout owed body)
      (inward_behave σ layout owed body) min
  | optional body => fun ho => by
    rw [overlap?] at ho
    simpa only [attach, behave] using (attaches_attach owed ho).orTail
  | group label body => fun ho => by
    rw [overlap?] at ho
    simp only [attach, behave]
    cases layout.slotOf? label with
    | none => exact attaches_attach owed ho
    | some slot =>
      have hbody : Attaches (behave σ layout body (owed ∪ .closing slot true)) _ :=
        attaches_attach _ ho
      -- the end of a body that may match nothing is marked in front of the tail
      have htail : Attaches (fun P _ => if body.nullable then P.overlay (.closing slot false) else P)
          fun tail g => if body.nullable then g.annotate tail (.closing slot false) else (tail, g) := by
        split
        · exact attaches_annotate _
        · exact attaches_nothing
      exact (attaches_annotate (.opening slot)).inFront (hbody.inFront htail)

theorem attaches_sequence (owed : Marks) : ∀ {items : List Pattern}, overlapFromRight? σ items = none →
    Attaches (behaveSequence σ layout items owed) fun tail g =>
      ((attachSequence σ layout items tail owed g).1, (attachSequence σ layout items tail owed g).2.2)
  | [] => fun _ => by
    simpa only [attachSequence, behaveSequence] using attaches_nothing
  | item :: rest => fun ho => by
    simp only [overlapFromRight?, Option.orElse_eq_orElse, Option.orElse_eq_or, Option.or_eq_none_iff] at ho
    have hrest : Attaches (behaveSequence σ layout rest owed) _ := attaches_sequence owed ho.1
    have hitem : Attaches (behave σ layout item (if allNullable rest then owed else ∅)) _ :=
      attaches_attach _ ho.2
    simpa only [attachSequence, behaveSequence, attachSequence_owed] using hitem.inFront hrest

theorem attaches_each (owed : Marks) : ∀ {branches : List Pattern}, overlapFromLeft? σ branches = none →
    AttachesEach (behaveEach σ layout branches owed) fun tail g => attachEach σ layout branches tail owed g
  | [] => fun _ => by
    simpa only [attachEach, behaveEach] using AttachesEach.nil
  | branch :: rest => fun ho => by
    simp only [overlapFromLeft?, Option.orElse_eq_orElse, Option.orElse_eq_or, Option.or_eq_none_iff] at ho
    have hbranch : Attaches (behave σ layout branch owed) _ := attaches_attach owed ho.1
    simpa only [attachEach, behaveEach] using AttachesEach.cons hbranch (attaches_each owed ho.2)

end

end Polymatch.Pattern
