import Polymatch.Proofs.Pattern.Language

/-! # Patterns over an alphabet

Classes may name ordinals that no symbol of the alphabet has. A pattern binds none
of them, so whatever it reads is an input over the alphabet.
-/

namespace Polymatch

theorem Alphabet.admits_cons {σ : Alphabet} {x : Nat} {w : List Nat} :
    σ.Admits (x :: w) ↔ x < σ.limit ∧ σ.Admits w :=
  List.forall_mem_cons

namespace Behaviour

variable {σ : Alphabet} {P Q : Behaviour} {F : Context} {policy : LoopPolicy}

/-- Everything that is read is an input over the alphabet. -/
def Admitted (σ : Alphabet) (P : Behaviour) : Prop := ∀ w ∈ P.reads, σ.Admits w

theorem admitted_silent (σ : Alphabet) : silent.Admitted σ := by
  intro w hw
  rw [reads_silent] at hw
  exact absurd hw (Language.notMem_zero w)

theorem admitted_done (σ : Alphabet) : done.Admitted σ := by
  intro w hw
  rw [reads_done, Language.mem_one] at hw
  rw [hw]
  exact List.forall_mem_nil _

namespace Admitted

theorem choose (hP : P.Admitted σ) (hQ : Q.Admitted σ) : (choose policy P Q).Admitted σ := by
  intro w hw
  exact ((Bounded.choose (σ := σ) False.elim P Q w).1 hw).elim (hP w) (hQ w)

theorem either (hP : P.Admitted σ) (hQ : Q.Admitted σ) : (either P Q).Admitted σ := by
  have h : (Behaviour.choose .plain P Q).Admitted σ := hP.choose hQ
  exact h

theorem overlay (hP : P.Admitted σ) (added : Marks) : (P.overlay added).Admitted σ := by
  unfold Admitted
  rwa [reads_overlay]

theorem consume {members : Nat → Prop} (hm : ∀ x, members x → x < σ.limit) (marks : Marks)
    (hP : P.Admitted σ) : (consume members marks P).Admitted σ := by
  intro w hw
  obtain ⟨x, v, rfl, hx, hv⟩ := mem_reads_consume.1 hw
  exact Alphabet.admits_cons.2 ⟨hm x hx, hP v hv⟩

end Admitted

/-- In front of a tail over the alphabet, the context reads inputs over the alphabet. -/
def Admitting (σ : Alphabet) (F : Context) : Prop :=
  ∀ {P Q : Behaviour}, P.Admitted σ → Q.Admitted σ → (F P Q).Admitted σ

theorem admitting_copies (hF : Admitting σ F) (mayEnd : Nat → Bool) (ks : List Nat) :
    Admitting σ (copies F mayEnd ks) := by
  induction ks with
  | nil => exact fun hP _ => hP
  | cons k ks ih =>
    intro P Q hP hQ
    have hagain := hF (ih hP hQ) (ih hQ hQ)
    simp only [copies]
    split
    · exact hagain.either hP
    · exact hagain

theorem admitted_fixed (hF : Admitting σ F) (hQ : Q.Admitted σ) : (fixed F policy Q).Admitted σ := by
  have hrounds : ∀ n, (rounds F policy Q n).Admitted σ := by
    intro n
    induction n with
    | zero => exact admitted_silent σ
    | succ n ih => exact (hF (admitted_silent σ) ih).choose hQ
  rintro w ⟨t, e, rfl, h⟩
  exact hrounds (t.length + 1) _ ⟨t, e, rfl, h⟩

theorem admitting_entry (hF : Admitting σ F) : Admitting σ (entry F policy) := fun hP hQ =>
  (hF (admitted_silent σ) (admitted_fixed hF hQ)).choose hP

theorem admitting_loop (hF : Admitting σ F) (min : Nat) : Admitting σ (loop F min policy) := by
  intro P Q hP hQ
  have hagain : (fixed F policy Q).Admitted σ := admitted_fixed hF hQ
  have hentry : (entry F policy P Q).Admitted σ := admitting_entry hF hP hQ
  simp only [loop]
  split
  · exact hentry
  · exact admitting_copies hF _ _ (hF hentry hagain) (hF hagain hagain)

end Behaviour

namespace Pattern

open Behaviour

variable {σ : Alphabet}

mutual

/-- A pattern in front of a tail binds ordinals of the alphabet only. -/
theorem admitting_behave (layout : Layout) : ∀ (p : Pattern) (owed : Marks),
    Admitting σ (p.behave σ layout owed)
  | symbols ranges, owed => fun _ hQ => hQ.consume (fun _ hx => hx.2) owed
  | sequence items, owed => admitting_behaveSequence layout items owed
  | select branches, owed => admitting_behaveEach layout branches owed
  | counted body counts, owed => admitting_copies (admitting_behave layout body owed) _ _
  | loop body min policy, owed => admitting_loop (admitting_behave layout body owed) min
  | optional body, owed => fun hP hQ => (admitting_behave layout body owed hP hQ).either hP
  | group label body, owed => fun hP hQ => by
    simp only [behave]
    cases layout.slotOf? label with
    | none => exact admitting_behave layout body owed hP hQ
    | some slot =>
      have hending : ∀ {R : Behaviour}, R.Admitted σ →
          (if body.nullable then R.overlay (.closing slot false) else R).Admitted σ := by
        intro R hR
        split
        · exact hR.overlay _
        · exact hR
      exact (admitting_behave layout body _ (hending hP) (hending hQ)).overlay _

theorem admitting_behaveSequence (layout : Layout) : ∀ (items : List Pattern) (owed : Marks),
    Admitting σ (behaveSequence σ layout items owed)
  | [], _ => fun hP _ => hP
  | item :: rest, owed => fun hP hQ =>
    admitting_behave layout item _ (admitting_behaveSequence layout rest owed hP hQ)
      (admitting_behaveSequence layout rest owed hQ hQ)

theorem admitting_behaveEach (layout : Layout) : ∀ (branches : List Pattern) (owed : Marks),
    Admitting σ (behaveEach σ layout branches owed)
  | [], _ => fun _ _ => admitted_silent σ
  | branch :: rest, owed => fun hP hQ =>
    (admitting_behave layout branch owed hP hQ).either (admitting_behaveEach layout rest owed hP hQ)

end

end Pattern

end Polymatch
