import Polymatch.Proofs.Group.Recording
import Polymatch.Proofs.Pattern.Compile
import Polymatch.Proofs.Pattern.Language

/-! # Patterns under different layouts

What a pattern reads does not depend on the slots of its groups. Under another layout
it binds the same ordinals and reads the same inputs, and the marks that it gives are
on the slots of its own groups.
-/

namespace Polymatch

namespace Layout

variable {l : Layout} {label label' : Label}

theorem slotOf?_of_mem (h : label ∈ l.labels) : l.slotOf? label = some (l.slotOf label) :=
  if_pos (List.contains_iff_mem.2 h)

theorem slotOf_lt (h : label ∈ l.labels) (hlt : label < label') : l.slotOf label < l.slotOf label' := by
  obtain ⟨s, t, hl⟩ := List.append_of_mem h
  have hmono : ∀ labels : List Label, labels.countP (· < label) ≤ labels.countP (· < label') := fun labels =>
    List.countP_mono_left fun x _ hx => decide_eq_true (lt_trans (of_decide_eq_true hx) hlt)
  have hs := hmono s
  have ht := hmono t
  simp only [slotOf, hl, List.countP_append, List.countP_cons, lt_irrefl, hlt, decide_true, decide_false]
  simp only [Bool.false_eq_true, if_true, if_false]
  omega

theorem slotOf_inj (h : label ∈ l.labels) (h' : label' ∈ l.labels) (heq : l.slotOf label = l.slotOf label') :
    label = label' := by
  rcases lt_trichotomy label label' with hlt | rfl | hlt
  · exact absurd heq (slotOf_lt h hlt).ne
  · rfl
  · exact absurd heq (slotOf_lt h' hlt).ne'

end Layout

namespace Behaviour

variable {slots : Nat → Prop} {P P' Q Q' : Behaviour} {F F' : Context} {policy : LoopPolicy} {w : List Nat}

theorem mem_reads_prefer :
    w ∈ (prefer P Q).reads ↔ w ∈ P.reads ∨ (∀ x ∈ w.head?, ¬ P.binds x) ∧ w ∈ Q.reads := by
  have hhead : ∀ t : Trace, (∀ x ∈ t.head?, ¬ P.binds x.1) ↔ ∀ x ∈ (t.map Prod.fst).head?, ¬ P.binds x := by
    intro t
    simp [List.head?_map]
  constructor
  · rintro ⟨t, e, rfl, h | ⟨hb, h⟩⟩
    · exact .inl ⟨t, e, rfl, h⟩
    · exact .inr ⟨(hhead t).1 hb, t, e, rfl, h⟩
  · rintro (⟨t, e, rfl, h⟩ | ⟨hb, t, e, rfl, h⟩)
    · exact ⟨t, e, rfl, .inl h⟩
    · exact ⟨t, e, rfl, .inr ⟨(hhead t).2 hb, h⟩⟩

/-- As many rounds as there are symbols settle what a loop reads. -/
theorem mem_reads_fixed :
    w ∈ (fixed F policy Q).reads ↔ w ∈ (rounds F policy Q (w.length + 1)).reads := by
  constructor
  · rintro ⟨t, e, rfl, h⟩
    rw [List.length_map]
    exact ⟨t, e, rfl, h⟩
  · rintro ⟨t, e, rfl, h⟩
    rw [List.length_map] at h
    exact ⟨t, e, rfl, h⟩

/-- Both behaviours bind and read the same, and the first one gives marks on some slots only. -/
structure Mirrors (slots : Nat → Prop) (P P' : Behaviour) : Prop where
  binds : ∀ x, P.binds x ↔ P'.binds x
  reads : P.reads = P'.reads
  marks : ∀ t e, P.spells t e → (∀ step ∈ t, Marks.On slots step.2) ∧ Marks.On slots e

theorem mirrors_silent (slots : Nat → Prop) : Mirrors slots silent silent :=
  ⟨fun _ => Iff.rfl, rfl, fun _ _ h => h.elim⟩

theorem mirrors_done (slots : Nat → Prop) : Mirrors slots done done where
  binds _ := Iff.rfl
  reads := rfl
  marks := by
    rintro t e ⟨rfl, rfl⟩
    exact ⟨List.forall_mem_nil _, Marks.on_empty slots⟩

namespace Mirrors

theorem either (h : Mirrors slots P P') (h' : Mirrors slots Q Q') :
    Mirrors slots (either P Q) (Behaviour.either P' Q') where
  binds x := or_congr (h.binds x) (h'.binds x)
  reads := by rw [reads_either, reads_either, h.reads, h'.reads]
  marks t e := Or.rec (h.marks t e) (h'.marks t e)

theorem prefer (h : Mirrors slots P P') (h' : Mirrors slots Q Q') :
    Mirrors slots (prefer P Q) (Behaviour.prefer P' Q') where
  binds x := or_congr (h.binds x) (h'.binds x)
  reads := by
    ext w
    simp only [mem_reads_prefer, h.reads, h'.reads, h.binds]
  marks t e := Or.rec (h.marks t e) fun hq => h'.marks t e hq.2

theorem choose (h : Mirrors slots P P') (h' : Mirrors slots Q Q') :
    Mirrors slots (choose policy P Q) (Behaviour.choose policy P' Q') := by
  cases policy with
  | plain => exact h.either h'
  | extending => exact h.prefer h'
  | limiting => exact h'.prefer h

theorem overlay_left {added : Marks} (h : Mirrors slots P P') (ha : added.On slots) :
    Mirrors slots (P.overlay added) P' where
  binds := h.binds
  reads := (reads_overlay P added).trans h.reads
  marks
    | [], e, hspells => by
      obtain ⟨exit, hexit, rfl⟩ := hspells
      exact ⟨List.forall_mem_nil _, (h.marks [] exit hexit).2.union ha⟩
    | (x, M) :: t, e, hspells => by
      obtain ⟨marks, hmarks, rfl⟩ := hspells
      obtain ⟨ht, he⟩ := h.marks _ e hmarks
      obtain ⟨hstep, ht⟩ := List.forall_mem_cons.1 ht
      exact ⟨List.forall_mem_cons.2 ⟨hstep.union ha, ht⟩, he⟩

theorem overlay_right (h : Mirrors slots P P') (added : Marks) : Mirrors slots P (P'.overlay added) where
  binds := h.binds
  reads := h.reads.trans (reads_overlay P' added).symm
  marks := h.marks

theorem consume {marks : Marks} (h : Mirrors slots P P') (hm : marks.On slots) (members : Nat → Prop)
    (marks' : Marks) : Mirrors slots (consume members marks P) (Behaviour.consume members marks' P') where
  binds _ := Iff.rfl
  reads := by
    ext w
    simp only [mem_reads_consume, h.reads]
  marks
    | [], _, hspells => hspells.elim
    | (x, M) :: t, e, hspells => by
      obtain ⟨-, rfl, hspells⟩ := hspells
      obtain ⟨ht, he⟩ := h.marks t e hspells
      exact ⟨List.forall_mem_cons.2 ⟨hm, ht⟩, he⟩

end Mirrors

/-- In front of tails that mirror each other, so do the contexts. -/
def Lifts (slots : Nat → Prop) (F F' : Context) : Prop := ∀ {P P' Q Q' : Behaviour},
  Mirrors slots P P' → Mirrors slots Q Q' → Mirrors slots (F P Q) (F' P' Q')

theorem lifts_copies (h : Lifts slots F F') (mayEnd : Nat → Bool) (ks : List Nat) :
    Lifts slots (copies F mayEnd ks) (copies F' mayEnd ks) := by
  induction ks with
  | nil => exact fun hP _ => hP
  | cons k ks ih =>
    intro P P' Q Q' hP hQ
    have hagain := h (ih hP hQ) (ih hQ hQ)
    simp only [copies]
    split
    · exact hagain.either hP
    · exact hagain

theorem mirrors_fixed (h : Lifts slots F F') (hQ : Mirrors slots Q Q') :
    Mirrors slots (fixed F policy Q) (fixed F' policy Q') := by
  have hrounds : ∀ n, Mirrors slots (rounds F policy Q n) (rounds F' policy Q' n) := by
    intro n
    induction n with
    | zero => exact mirrors_silent slots
    | succ n ih => exact (h (mirrors_silent slots) ih).choose hQ
  refine ⟨(hrounds 1).binds, ?_, fun t e => (hrounds (t.length + 1)).marks t e⟩
  ext w
  rw [mem_reads_fixed, mem_reads_fixed, (hrounds (w.length + 1)).reads]

theorem lifts_entry (h : Lifts slots F F') : Lifts slots (entry F policy) (entry F' policy) := fun hP hQ =>
  (h (mirrors_silent slots) (mirrors_fixed h hQ)).choose hP

theorem lifts_loop (h : Lifts slots F F') (min : Nat) :
    Lifts slots (loop F min policy) (loop F' min policy) := by
  intro P P' Q Q' hP hQ
  have hagain : Mirrors slots (fixed F policy Q) (fixed F' policy Q') := mirrors_fixed h hQ
  have hentry : Mirrors slots (entry F policy P Q) (entry F' policy P' Q') := lifts_entry h hP hQ
  simp only [loop]
  split
  · exact hentry
  · exact lifts_copies h _ _ (h hentry hagain) (h hagain hagain)

end Behaviour

namespace Pattern

open Behaviour

variable {σ : Alphabet} {layout layout' : Layout} {slots : Nat → Prop} {owed owed' : Marks}

/-- The slots of some groups under a layout. -/
def Slots (layout : Layout) (labels : List Label) (slot : Nat) : Prop :=
  ∃ label ∈ labels, layout.slotOf? label = some slot

mutual

/-- A pattern does the same under another layout, and gives marks on the slots of its groups. -/
theorem lifts_behave (layout layout' : Layout) : ∀ (p : Pattern) {owed : Marks} (owed' : Marks),
    owed.On slots → (∀ slot, Slots layout p.labels slot → slots slot) →
      Lifts slots (p.behave σ layout owed) (p.behave σ layout' owed')
  | symbols ranges, _, _ => fun ho _ _ _ _ _ _ hQ => hQ.consume ho _ _
  | sequence items, _, owed' => fun ho hs => lifts_behaveSequence layout layout' items owed' ho hs
  | select branches, _, owed' => fun ho hs => lifts_behaveEach layout layout' branches owed' ho hs
  | counted body counts, _, owed' => fun ho hs =>
    lifts_copies (lifts_behave layout layout' body owed' ho hs) _ _
  | loop body min policy, _, owed' => fun ho hs =>
    lifts_loop (lifts_behave layout layout' body owed' ho hs) min
  | optional body, _, owed' => fun ho hs _ _ _ _ hP hQ =>
    (lifts_behave layout layout' body owed' ho hs hP hQ).either hP
  | group label body, owed, owed' => fun ho hs P P' Q Q' hP hQ => by
    have hbody : ∀ slot, Slots layout body.labels slot → slots slot := fun slot ⟨l, hl, hslot⟩ =>
      hs slot ⟨l, List.mem_cons_of_mem _ hl, hslot⟩
    have hright : ∀ {R R' : Behaviour} (added : Marks), Mirrors slots R R' →
        Mirrors slots R (if body.nullable then R'.overlay added else R') := by
      intro R R' added hR
      split
      · exact hR.overlay_right added
      · exact hR
    simp only [behave]
    cases hlabel : layout.slotOf? label with
    | none =>
      cases layout'.slotOf? label with
      | none => exact lifts_behave layout layout' body owed' ho hbody hP hQ
      | some slot' =>
        exact (lifts_behave layout layout' body _ ho hbody (hright _ hP) (hright _ hQ)).overlay_right _
    | some slot =>
      have hslot : slots slot := hs slot ⟨label, List.mem_cons_self, hlabel⟩
      have hleft : ∀ {R R' : Behaviour}, Mirrors slots R R' →
          Mirrors slots (if body.nullable then R.overlay (.closing slot false) else R) R' := by
        intro R R' hR
        split
        · exact hR.overlay_left (Marks.on_closing hslot false)
        · exact hR
      have howed := ho.union (Marks.on_closing hslot true)
      refine Mirrors.overlay_left ?_ (Marks.on_opening hslot)
      cases layout'.slotOf? label with
      | none => exact lifts_behave layout layout' body owed' howed hbody (hleft hP) (hleft hQ)
      | some slot' =>
        exact (lifts_behave layout layout' body _ howed hbody (hright _ (hleft hP))
          (hright _ (hleft hQ))).overlay_right _

theorem lifts_behaveSequence (layout layout' : Layout) : ∀ (items : List Pattern) {owed : Marks} (owed' : Marks),
    owed.On slots → (∀ slot, Slots layout (allLabels items) slot → slots slot) →
      Lifts slots (behaveSequence σ layout items owed) (behaveSequence σ layout' items owed')
  | [], _, _ => fun _ _ _ _ _ _ hP _ => hP
  | item :: rest, owed, owed' => fun ho hs _ _ _ _ hP hQ => by
    have hrest : Lifts slots (behaveSequence σ layout rest owed) (behaveSequence σ layout' rest owed') :=
      lifts_behaveSequence layout layout' rest owed' ho fun slot ⟨l, hl, hslot⟩ =>
        hs slot ⟨l, List.mem_append_right _ hl, hslot⟩
    have howed : Marks.On slots (if allNullable rest then owed else ∅) := by
      split
      · exact ho
      · exact Marks.on_empty slots
    exact lifts_behave layout layout' item _ howed
      (fun slot ⟨l, hl, hslot⟩ => hs slot ⟨l, List.mem_append_left _ hl, hslot⟩) (hrest hP hQ) (hrest hQ hQ)

theorem lifts_behaveEach (layout layout' : Layout) : ∀ (branches : List Pattern) {owed : Marks} (owed' : Marks),
    owed.On slots → (∀ slot, Slots layout (allLabels branches) slot → slots slot) →
      Lifts slots (behaveEach σ layout branches owed) (behaveEach σ layout' branches owed')
  | [], _, _ => fun _ _ _ _ _ _ _ _ => mirrors_silent slots
  | branch :: rest, _, owed' => fun ho hs _ _ _ _ hP hQ =>
    (lifts_behave layout layout' branch owed' ho
      (fun slot ⟨l, hl, hslot⟩ => hs slot ⟨l, List.mem_append_left _ hl, hslot⟩) hP hQ).either
    (lifts_behaveEach layout layout' rest owed' ho
      (fun slot ⟨l, hl, hslot⟩ => hs slot ⟨l, List.mem_append_right _ hl, hslot⟩) hP hQ)

end

theorem mirrors_meaning (σ : Alphabet) (layout layout' : Layout) (p : Pattern) :
    Mirrors (Slots layout p.labels) (p.meaning σ layout) (p.meaning σ layout') :=
  lifts_behave layout layout' p ∅ (Marks.on_empty _) (fun _ => id) (mirrors_done _) (mirrors_done _)

/-- Branches spell what one of them spells. -/
theorem spells_behaveEach {first later : Behaviour} {t : Trace} {e : Marks} {branches : List Pattern} :
    (behaveEach σ layout branches owed first later).spells t e ↔
      ∃ b ∈ branches, (b.behave σ layout owed first later).spells t e := by
  induction branches with
  | nil => simp [behaveEach, silent]
  | cons branch rest ih => simp only [behaveEach, Behaviour.either, ih, List.mem_cons, exists_eq_or_imp]

/-- A pattern reads words that it stands for if none of its loops is exclusive. -/
theorem reads_meaning_le (p : Pattern) {w : List Nat} (h : w ∈ (p.meaning σ layout).reads) : w ∈ p.lax := by
  have hw := ((denotes_behave (σ := σ) layout p ∅ (False.elim) .done .done) w).1 h
  rwa [reads_done, leading_self, mul_one] at hw

end Pattern

end Polymatch
