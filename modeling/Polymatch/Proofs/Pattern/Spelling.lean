import Polymatch.Proofs.Pattern.Layouts
import Polymatch.Proofs.Pattern.Walks

/-! # Spelling walks

A walk spells a trace: the marks of what happens in front of a symbol are given to
that symbol, and those of what happens behind the last symbol to the exit. The
behaviour of a pattern without exclusive loops spells all of its walks.
-/

namespace Polymatch

namespace Event

open Behaviour

/-- What a behaviour spells: a trace and the marks of the exit. -/
abbrev Spelling := Trace × Marks

/-- Marks are added to the first symbol, or to the exit if there is none. -/
def overlay (added : Marks) : Spelling → Spelling
  | ([], e) => ([], e ∪ added)
  | ((x, M) :: t, e) => ((x, M ∪ added) :: t, e)

/-- An event in front of a tail. A group that matches the empty input is closed in front of the next
symbol, any other behind the symbols that owe it a mark. -/
def spell (layout : Layout) : Event → Spelling → Spelling
  | opening label, s => overlay (.opening (layout.slotOf label)) s
  | closing label nullable, s => if nullable then overlay (.closing (layout.slotOf label) false) s else s
  | read x owed, s => ((x, owed) :: s.1, s.2)

/-- Some events in front of a tail. -/
def spellAll (layout : Layout) (es : List Event) (s : Spelling) : Spelling := es.foldr (spell layout) s

variable {layout : Layout} {es es' : List Event} {F G : Context} {P Q : Behaviour} {s : Spelling}
  {copies rounds : List (List Event)}

theorem spellAll_append (layout : Layout) (es es' : List Event) (s : Spelling) :
    spellAll layout (es ++ es') s = spellAll layout es (spellAll layout es' s) :=
  List.foldr_append

theorem map_overlay (added : Marks) (s : Spelling) : (overlay added s).1.map Prod.fst = s.1.map Prod.fst := by
  obtain ⟨_ | _, _⟩ := s <;> rfl

/-- Events spell the symbols that they read. -/
theorem map_spellAll (layout : Layout) (es : List Event) (s : Spelling) :
    (spellAll layout es s).1.map Prod.fst = word es ++ s.1.map Prod.fst := by
  induction es with
  | nil => rfl
  | cons event es ih =>
    rw [spellAll, List.foldr_cons, ← spellAll]
    cases event with
    | opening label => exact (map_overlay _ _).trans ih
    | closing label nullable =>
      cases nullable with
      | false => exact ih
      | true => exact (map_overlay _ _).trans ih
    | read x owed => exact congrArg (x :: ·) ih

theorem spells_overlay (h : P.spells s.1 s.2) (added : Marks) :
    (P.overlay added).spells (overlay added s).1 (overlay added s).2 := by
  obtain ⟨_ | ⟨⟨x, M⟩, t⟩, e⟩ := s
  · exact ⟨e, h, rfl⟩
  · exact ⟨M, h, rfl⟩

/-- In front of a tail, a context spells some events. -/
def Tells (layout : Layout) (F : Context) (es : List Event) : Prop := ∀ (P Q : Behaviour) (s : Spelling),
  (word es = [] → P.spells s.1 s.2) → (word es ≠ [] → Q.spells s.1 s.2) →
    (F P Q).spells (spellAll layout es s).1 (spellAll layout es s).2

theorem Tells.comp (hF : Tells layout F es) (hG : Tells layout G es') :
    Tells layout (fun P Q => F (G P Q) (G Q Q)) (es ++ es') := by
  intro P Q s hP hQ
  rw [spellAll_append]
  apply hF
  · intro hw
    exact hG P Q s (fun hw' => hP (word_append_eq_nil.2 ⟨hw, hw'⟩))
      fun hw' => hQ fun h => hw' (word_append_eq_nil.1 h).2
  · intro hw
    have hs := hQ fun h => hw (word_append_eq_nil.1 h).1
    exact hG Q Q s (fun _ => hs) fun _ => hs

theorem tells_copies (hF : ∀ es ∈ copies, Tells layout F es) {mayEnd : Nat → Bool} {first n : Nat}
    (h : copies.length = n ∨ copies.length < n ∧ mayEnd (first + copies.length) = true) :
    Tells layout (Behaviour.copies F mayEnd (List.range' first n)) copies.flatten := by
  induction n generalizing first copies with
  | zero =>
    obtain rfl : copies = [] := List.length_eq_zero_iff.1 (by omega)
    exact fun P Q s hP _ => hP rfl
  | succ n ih =>
    rw [List.range'_succ]
    cases copies with
    | nil =>
      obtain ⟨-, hend⟩ := h.resolve_left (Nat.succ_ne_zero n).symm
      rw [List.length_nil, Nat.add_zero] at hend
      intro P Q s hP _
      simp only [Behaviour.copies, if_pos hend]
      exact .inr (hP rfl)
    | cons es copies =>
      obtain ⟨hes, hcopies⟩ := List.forall_mem_cons.1 hF
      rw [List.length_cons, Nat.add_comm copies.length, ← Nat.add_assoc] at h
      have hrest := hes.comp (ih hcopies (h.imp (by omega) fun h => ⟨by omega, h.2⟩))
      intro P Q s hP hQ
      simp only [Behaviour.copies]
      split
      · exact .inl (hrest P Q s hP hQ)
      · exact hrest P Q s hP hQ

/-- A loop that has moved spells its rounds. -/
theorem spells_fixed (hguard : Guarded F) (hF : ∀ es ∈ rounds, Tells layout F es)
    (hmove : ∀ es ∈ rounds, word es ≠ []) (hQ : Q.spells s.1 s.2) :
    (fixed F .plain Q).spells (spellAll layout rounds.flatten s).1 (spellAll layout rounds.flatten s).2 := by
  induction rounds with
  | nil =>
    rw [fixed_eq hguard]
    exact .inr hQ
  | cons es rounds ih =>
    obtain ⟨hes, hF⟩ := List.forall_mem_cons.1 hF
    obtain ⟨hne, hmove⟩ := List.forall_mem_cons.1 hmove
    rw [fixed_eq hguard, List.flatten_cons, spellAll_append]
    exact .inl (hes _ _ _ (fun hw => absurd hw hne) fun _ => ih hF hmove)

theorem tells_entry (hguard : Guarded F) (hF : ∀ es ∈ rounds, Tells layout F es)
    (hmove : ∀ es ∈ rounds, word es ≠ []) : Tells layout (entry F .plain) rounds.flatten := by
  intro P Q s hP hQ
  cases rounds with
  | nil => exact .inr (hP rfl)
  | cons es rounds =>
    obtain ⟨hes, hF⟩ := List.forall_mem_cons.1 hF
    obtain ⟨hne, hmove⟩ := List.forall_mem_cons.1 hmove
    have hs : Q.spells s.1 s.2 := hQ fun hw => hne (word_append_eq_nil.1 hw).1
    rw [List.flatten_cons, spellAll_append]
    exact .inl (hes _ _ _ (fun hw => absurd hw hne) fun _ => spells_fixed hguard hF hmove hs)

theorem tells_loop (hguard : Guarded F) (hC : ∀ es ∈ copies, Tells layout F es)
    (hF : ∀ es ∈ rounds, Tells layout F es) (hmove : ∀ es ∈ rounds, word es ≠ []) :
    Tells layout (loop F copies.length .plain) (copies.flatten ++ rounds.flatten) := by
  have hentry := tells_entry hguard hF hmove
  rcases List.eq_nil_or_concat copies with rfl | ⟨copies, last, rfl⟩
  · exact hentry
  · rw [List.concat_eq_append, List.forall_mem_append, List.forall_mem_singleton] at hC
    have hcopies : Tells layout (Behaviour.copies F (fun _ => false) (List.range' 0 copies.length))
        copies.flatten := tells_copies hC.1 (.inl rfl)
    have hall := hcopies.comp (hC.2.comp hentry)
    have hagain : ∀ Q : Behaviour, entry F .plain Q Q = fixed F .plain Q := fun Q => (fixed_eq hguard Q).symm
    simp only [hagain, ← List.range_eq_range'] at hall
    rw [List.concat_eq_append, List.flatten_append, List.flatten_singleton, List.append_assoc,
      List.length_append, List.length_singleton]
    exact hall

end Event

namespace Pattern

open Behaviour Event

variable {σ : Alphabet} {layout : Layout} {p : Pattern} {owed : Marks} {es : List Event}

/-- A pattern without exclusive loops spells its walks over the alphabet. -/
theorem Walk.tells (h : Walk layout p owed es) (hp : p.Standard) (hσ : σ.Admits (word es)) :
    Tells layout (p.behave σ layout owed) es := by
  have hpart : ∀ {copies : List (List Event)}, σ.Admits (word copies.flatten) →
      ∀ es ∈ copies, σ.Admits (word es) := by
    intro copies hσ es hes x hx
    rw [word_flatten] at hσ
    exact hσ x (List.mem_flatten.2 ⟨_, List.mem_map_of_mem hes, hx⟩)
  induction h with
  | @symbols ranges owed x hx =>
    intro P Q s _ hQ
    exact ⟨⟨hx, hσ x List.mem_cons_self⟩, rfl, hQ nofun⟩
  | nil => exact fun P Q s hP _ => hP rfl
  | @cons item rest owed es es' _ _ ih ih' =>
    rw [word_append, Alphabet.Admits, List.forall_mem_append] at hσ
    exact (ih hp.1 hσ.1).comp (ih' hp.2 hσ.2)
  | select hb _ ih =>
    intro P Q s hP hQ
    exact spells_behaveEach.2 ⟨_, hb, ih (standard_of_mem hp hb) hσ P Q s hP hQ⟩
  | @counted body counts owed copies hlength _ ih =>
    have hcopies : ∀ es ∈ copies, Tells layout (body.behave σ layout owed) es := fun es hes =>
      ih es hes hp.1 (hpart hσ es hes)
    rw [mem_counts_iff hp.2.1 hp.2.2] at hlength
    intro P Q s hP hQ
    rw [behave, List.range_eq_range']
    exact tells_copies hcopies (by rwa [Nat.zero_add]) P Q s hP hQ
  | @loop body policy owed copies rounds _ _ hmove ih ih' =>
    obtain ⟨hbody, rfl⟩ := hp
    rw [word_append, Alphabet.Admits, List.forall_mem_append] at hσ
    exact tells_loop (guarded_behave σ layout owed body) (fun es hes => ih es hes hbody (hpart hσ.1 es hes))
      (fun es hes => ih' es hes hbody (hpart hσ.2 es hes)) hmove
  | skip => exact fun P Q s hP _ => .inr (hP rfl)
  | take _ ih => exact fun P Q s hP hQ => .inl (ih hp hσ P Q s hP hQ)
  | @group label body owed es hlabel _ ih =>
    have hword : word (.opening label :: (es ++ [.closing label body.nullable])) = word es := by
      rw [← List.cons_append, word_append]
      exact List.append_nil _
    rw [hword] at hσ
    have hslot := Layout.slotOf?_of_mem hlabel
    intro P Q s hP hQ
    rw [hword] at hP hQ
    simp only [behave, hslot]
    rw [spellAll, List.foldr_cons, ← spellAll, spellAll_append]
    -- the body is closed in front of what the tail spells
    have hending : ∀ R : Behaviour, R.spells s.1 s.2 →
        (if body.nullable then R.overlay (.closing (layout.slotOf label) false) else R).spells
          (spellAll layout [.closing label body.nullable] s).1
            (spellAll layout [.closing label body.nullable] s).2 := by
      intro R hR
      cases hnullable : body.nullable with
      | false => exact hR
      | true => exact spells_overlay hR _
    exact spells_overlay (ih hp hσ _ _ _ (fun hw => hending P (hP hw)) fun hw => hending Q (hQ hw)) _

end Pattern

end Polymatch
