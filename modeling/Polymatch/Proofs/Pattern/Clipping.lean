import Polymatch.Proofs.Pattern.Recognition

/-! # Patterns over smaller alphabets

A class is cut down to the alphabet of the automaton, so a smaller alphabet takes
edges away, and with them the shortcuts of empty nodes and the preferences that the
edges decided. The behaviour of the pattern loses the inputs with other ordinals and
nothing else, because every construct of patterns commutes with that loss.
-/

namespace Polymatch

namespace Behaviour

variable {kept : Nat → Prop} {P Q : Behaviour} {F G : Context} {policy : LoopPolicy} {w : List Nat}

/-- What is left of a behaviour where only some ordinals can be read. -/
def clip (kept : Nat → Prop) (P : Behaviour) : Behaviour where
  opens := P.opens
  binds x := P.binds x ∧ kept x
  spells t e := P.spells t e ∧ ∀ step ∈ t, kept step.1

@[simp] theorem clip_silent (kept : Nat → Prop) : silent.clip kept = silent := by
  ext <;> simp [clip, silent]

@[simp] theorem clip_done (kept : Nat → Prop) : done.clip kept = done := by
  ext t e
  · exact Iff.rfl
  · exact and_iff_left_of_imp False.elim
  · simp only [clip, done]
    constructor
    · exact And.left
    · rintro ⟨rfl, rfl⟩
      exact ⟨⟨rfl, rfl⟩, List.forall_mem_nil _⟩

theorem clip_either (P Q : Behaviour) : (either P Q).clip kept = either (P.clip kept) (Q.clip kept) := by
  ext <;> simp only [clip, either, or_and_right]

/-- The first symbol that is read is kept, so the winner stops it before the loss or not at all. -/
theorem clip_prefer (P Q : Behaviour) : (prefer P Q).clip kept = prefer (P.clip kept) (Q.clip kept) := by
  ext t e
  · exact Iff.rfl
  · simp only [clip, prefer, or_and_right]
  · have hhead : (∀ step ∈ t, kept step.1) →
        ((∀ x ∈ t.head?, ¬ P.binds x.1) ↔ ∀ x ∈ t.head?, ¬ (P.binds x.1 ∧ kept x.1)) := by
      intro ht
      refine forall₂_congr fun x hx => ?_
      rw [and_iff_left (ht x (List.mem_of_mem_head? hx))]
    simp only [clip, prefer, or_and_right, and_assoc]
    refine or_congr_right ⟨?_, ?_⟩
    · rintro ⟨hb, hq, ht⟩
      exact ⟨(hhead ht).1 hb, hq, ht⟩
    · rintro ⟨hb, hq, ht⟩
      exact ⟨(hhead ht).2 hb, hq, ht⟩

theorem clip_choose (P Q : Behaviour) :
    (choose policy P Q).clip kept = choose policy (P.clip kept) (Q.clip kept) := by
  cases policy with
  | plain => exact clip_either P Q
  | extending => exact clip_prefer P Q
  | limiting => exact clip_prefer Q P

theorem clip_overlay (P : Behaviour) (added : Marks) :
    (P.overlay added).clip kept = (P.clip kept).overlay added := by
  ext t e
  · exact Iff.rfl
  · exact Iff.rfl
  · cases t with
    | nil => simp [clip, overlay]
    | cons step t =>
      simp only [clip, overlay, List.forall_mem_cons]
      constructor
      · rintro ⟨⟨marks, hp, hm⟩, ht⟩
        exact ⟨marks, ⟨hp, ht⟩, hm⟩
      · rintro ⟨marks, ⟨hp, ht⟩, hm⟩
        exact ⟨⟨marks, hp, hm⟩, ht⟩

theorem clip_consume (members : Nat → Prop) (marks : Marks) (P : Behaviour) :
    (consume members marks P).clip kept =
      consume (fun x => members x ∧ kept x) marks (P.clip kept) := by
  ext t e
  · exact Iff.rfl
  · exact Iff.rfl
  · cases t with
    | nil => simp [clip, consume]
    | cons step t =>
      simp only [clip, consume, List.forall_mem_cons]
      constructor
      · rintro ⟨⟨hx, hm, hp⟩, hstep, ht⟩
        exact ⟨⟨hx, hstep⟩, hm, hp, ht⟩
      · rintro ⟨⟨hx, hstep⟩, hm, hp, ht⟩
        exact ⟨⟨hx, hm, hp⟩, hstep, ht⟩

/-- In front of a tail, clipping what `F` makes of it is what `G` makes of the clipped tail. -/
def Clips (kept : Nat → Prop) (F G : Context) : Prop :=
  ∀ P Q : Behaviour, (F P Q).clip kept = G (P.clip kept) (Q.clip kept)

theorem clips_copies (h : Clips kept F G) (mayEnd : Nat → Bool) (ks : List Nat) :
    Clips kept (copies F mayEnd ks) (copies G mayEnd ks) := by
  induction ks with
  | nil => exact fun _ _ => rfl
  | cons k ks ih =>
    intro P Q
    simp only [copies]
    split
    · rw [clip_either, h, ih, ih]
    · rw [h, ih, ih]

theorem clip_rounds (h : Clips kept F G) (Q : Behaviour) (n : Nat) :
    (rounds F policy Q n).clip kept = rounds G policy (Q.clip kept) n := by
  induction n with
  | zero => exact clip_silent kept
  | succ n ih => rw [rounds, rounds, clip_choose, h, ih, clip_silent]

theorem clip_fixed (h : Clips kept F G) (Q : Behaviour) :
    (fixed F policy Q).clip kept = fixed G policy (Q.clip kept) := by
  ext t e
  · exact congrFun (congrArg opens (clip_rounds h Q 1)) t |>.to_iff
  · exact congrFun (congrArg binds (clip_rounds h Q 1)) t |>.to_iff
  · exact congrFun (congrFun (congrArg spells (clip_rounds h Q (t.length + 1))) t) e |>.to_iff

theorem clips_entry (h : Clips kept F G) : Clips kept (entry F policy) (entry G policy) := by
  intro P Q
  rw [entry, entry, clip_choose, h, clip_fixed h, clip_silent]

theorem clips_loop (h : Clips kept F G) (min : Nat) :
    Clips kept (loop F min policy) (loop G min policy) := by
  intro P Q
  simp only [loop]
  split
  · exact clips_entry h P Q
  · rw [clips_copies h, h, h, clips_entry h, clip_fixed h]

theorem mem_reads_clip : w ∈ (P.clip kept).reads ↔ w ∈ P.reads ∧ ∀ x ∈ w, kept x := by
  constructor
  · rintro ⟨t, e, rfl, ht, hkept⟩
    exact ⟨⟨t, e, rfl, ht⟩, List.forall_mem_map.2 hkept⟩
  · rintro ⟨⟨t, e, rfl, ht⟩, hkept⟩
    exact ⟨t, e, rfl, ht, List.forall_mem_map.1 hkept⟩

end Behaviour

namespace Pattern

open Behaviour

variable {σ τ : Alphabet} {layout : Layout} {p : Pattern}

mutual

/-- The classes of a pattern. -/
def classes : Pattern → List (List Interval)
  | symbols ranges => [ranges]
  | sequence items => allClasses items
  | select branches => allClasses branches
  | counted body _ => body.classes
  | loop body _ _ => body.classes
  | optional body => body.classes
  | group _ body => body.classes

def allClasses : List Pattern → List (List Interval)
  | [] => []
  | p :: rest => p.classes ++ allClasses rest

end

/-- No class of the pattern names an ordinal twice. -/
def Disjoint (p : Pattern) : Prop := ∀ ranges ∈ p.classes, ranges.Pairwise Interval.Apart

mutual

theorem overlap?_of_disjoint (σ : Alphabet) : ∀ p : Pattern,
    (∀ ranges ∈ p.classes, ranges.Pairwise Interval.Apart) → p.overlap? σ = none
  | symbols ranges => fun h => classOverlap?_eq_none (h ranges (List.mem_singleton.2 rfl))
  | sequence items => fun h => (overlapAll?_of_disjoint σ items h).1
  | select branches => fun h => (overlapAll?_of_disjoint σ branches h).2
  | counted body counts => fun h => by
    rw [overlap?, overlap?_of_disjoint σ body h, ite_self]
  | loop body min policy => fun h => overlap?_of_disjoint σ body h
  | optional body => fun h => overlap?_of_disjoint σ body h
  | group label body => fun h => overlap?_of_disjoint σ body h

theorem overlapAll?_of_disjoint (σ : Alphabet) : ∀ items : List Pattern,
    (∀ ranges ∈ allClasses items, ranges.Pairwise Interval.Apart) →
      overlapFromRight? σ items = none ∧ overlapFromLeft? σ items = none
  | [] => fun _ => ⟨rfl, rfl⟩
  | p :: rest => fun h => by
    rw [allClasses, List.forall_mem_append] at h
    obtain ⟨hright, hleft⟩ := overlapAll?_of_disjoint σ rest h.2
    rw [overlapFromRight?, overlapFromLeft?, overlap?_of_disjoint σ p h.1, hright, hleft]
    exact ⟨rfl, rfl⟩

end

mutual

/-- Over a smaller alphabet a pattern does what it does over the larger one, as far as the ordinals
of the smaller one go. -/
theorem clips_behave (hle : σ.limit ≤ τ.limit) : ∀ (p : Pattern) (owed : Marks),
    Clips (· < σ.limit) (p.behave τ layout owed) (p.behave σ layout owed)
  | symbols ranges, owed => fun _ Q => by
    have hmembers : ∀ x, (Interval.covers ranges x = true ∧ x < τ.limit) ∧ x < σ.limit ↔
        Interval.covers ranges x = true ∧ x < σ.limit := fun x =>
      ⟨fun h => ⟨h.1.1, h.2⟩, fun h => ⟨⟨h.1, Nat.lt_of_lt_of_le h.2 hle⟩, h.2⟩⟩
    simp only [behave, clip_consume, hmembers]
  | sequence items, owed => clips_behaveSequence hle items owed
  | select branches, owed => clips_behaveEach hle branches owed
  | counted body counts, owed => clips_copies (clips_behave hle body owed) _ _
  | loop body min policy, owed => clips_loop (clips_behave hle body owed) min
  | optional body, owed => fun P Q => by
    rw [behave, behave, clip_either, clips_behave hle body owed]
  | group label body, owed => fun P Q => by
    simp only [behave]
    cases layout.slotOf? label with
    | none => exact clips_behave hle body owed P Q
    | some slot =>
      have hending : ∀ R : Behaviour,
          (if body.nullable then R.overlay (.closing slot false) else R).clip (· < σ.limit) =
            if body.nullable then (R.clip (· < σ.limit)).overlay (.closing slot false)
            else R.clip (· < σ.limit) := by
        intro R
        split
        · exact clip_overlay R _
        · rfl
      simp only [clip_overlay, clips_behave hle body _ _ _, hending]

theorem clips_behaveSequence (hle : σ.limit ≤ τ.limit) : ∀ (items : List Pattern) (owed : Marks),
    Clips (· < σ.limit) (behaveSequence τ layout items owed) (behaveSequence σ layout items owed)
  | [], _ => fun _ _ => rfl
  | item :: rest, owed => fun P Q => by
    rw [behaveSequence, behaveSequence, clips_behave hle item, clips_behaveSequence hle rest,
      clips_behaveSequence hle rest]

theorem clips_behaveEach (hle : σ.limit ≤ τ.limit) : ∀ (branches : List Pattern) (owed : Marks),
    Clips (· < σ.limit) (behaveEach τ layout branches owed) (behaveEach σ layout branches owed)
  | [], _ => fun _ _ => clip_silent _
  | branch :: rest, owed => fun P Q => by
    rw [behaveEach, behaveEach, clip_either, clips_behave hle branch, clips_behaveEach hle rest]

end

theorem meaning_eq_clip (hle : σ.limit ≤ τ.limit) (layout : Layout) (p : Pattern) :
    p.meaning σ layout = (p.meaning τ layout).clip (· < σ.limit) := by
  rw [meaning, meaning, clips_behave hle, clip_done]

/-- A pattern with disjoint classes and distinct labels compiles over bytes and over units, and the
automaton over bytes matches the inputs of bytes that the automaton over units matches. -/
theorem exists_compile_isMatch_bytes_iff (p : Pattern) (hp : p.Disjoint) (hl : p.labels.Nodup) :
    ∃ a b, p.compile .bytes = .ok a ∧ p.compile .units = .ok b ∧
      ∀ w, a.isMatch w = true ↔ Alphabet.bytes.Admits w ∧ b.isMatch w = true := by
  have hbytes : p.overlap? .bytes = none := overlap?_of_disjoint .bytes p hp
  have hunits : p.overlap? .units = none := overlap?_of_disjoint .units p hp
  refine ⟨_, _, compile_of_nodup hbytes hl, compile_of_nodup hunits hl, fun w => ?_⟩
  have hle : Alphabet.bytes.limit ≤ Alphabet.units.limit := by decide
  rw [(compiled_automaton hbytes _).isMatch_iff, (compiled_automaton hunits _).isMatch_iff,
    meaning_eq_clip hle, mem_reads_clip, and_comm]
  rfl

/-- A loop that keeps the letter `a` or a letter beyond all bytes, in front of a group of both. -/
def letterBeyondBytes : Pattern :=
  sequence [loop (symbols [⟨97, 98⟩, ⟨0x100, 0x200⟩]) 1 .extending,
    group [0] (select [symbols [⟨98, 99⟩, ⟨0x100, 0x101⟩], symbols [⟨0x300, 0x301⟩]])]

theorem exists_compile_isMatch_bytes_iff_letterBeyondBytes :
    letterBeyondBytes.Disjoint ∧ letterBeyondBytes.labels.Nodup ∧
      ∃ a b, letterBeyondBytes.compile .bytes = .ok a ∧ letterBeyondBytes.compile .units = .ok b ∧
        ∀ w, a.isMatch w = true ↔ Alphabet.bytes.Admits w ∧ b.isMatch w = true := by
  have hdisjoint : letterBeyondBytes.Disjoint := by
    have hkept : Interval.Apart ⟨97, 98⟩ ⟨0x100, 0x200⟩ := Interval.apart_of_le (by decide)
    have hgroup : Interval.Apart ⟨98, 99⟩ ⟨0x100, 0x101⟩ := Interval.apart_of_le (by decide)
    simp [Disjoint, letterBeyondBytes, classes, allClasses, hkept, hgroup]
  have hlabels : letterBeyondBytes.labels.Nodup := by decide
  exact ⟨hdisjoint, hlabels, exists_compile_isMatch_bytes_iff letterBeyondBytes hdisjoint hlabels⟩

end Pattern

end Polymatch
