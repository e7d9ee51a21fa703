import Polymatch.Alphabet
import Polymatch.Group.Layout
import Polymatch.Marks
import Polymatch.Pattern.Basic

/-! # Behaviours

What a node does with the rest of the input: the open loop markers that it leads
to, the ordinals that it binds, and the inputs that it spells, every ordinal with
the marks it is given and the end with the marks of the exit. A pattern in front of a tail turns the behaviour of the
tail into its own. The tail may behave differently before the first symbol of the
pattern is consumed, when the pattern stands in a loop that has not moved yet.

A loop is a fixed point of its rounds. A round hands the input on to the next one
only after a symbol, so finitely many rounds settle every input.
-/

namespace Polymatch

/-- An input with the marks given to every ordinal. -/
abbrev Trace := List (Nat × Marks)

@[ext] structure Behaviour where
  opens : Nat → Prop
  binds : Nat → Prop
  spells : Trace → Marks → Prop

namespace Behaviour

/-- Binds nothing and spells nothing. -/
def silent : Behaviour := ⟨fun _ => False, fun _ => False, fun _ _ => False⟩

/-- Spells the empty input alone. -/
def done : Behaviour := ⟨fun _ => False, fun _ => False, fun t e => t = [] ∧ e = ∅⟩

def either (P Q : Behaviour) : Behaviour where
  opens b := P.opens b ∨ Q.opens b
  binds x := P.binds x ∨ Q.binds x
  spells t e := P.spells t e ∨ Q.spells t e

/-- The loser keeps the ordinals that the winner does not bind. -/
def prefer (P Q : Behaviour) : Behaviour where
  opens b := P.opens b ∨ Q.opens b
  binds x := P.binds x ∨ Q.binds x
  spells t e := P.spells t e ∨ (∀ x ∈ t.head?, ¬ P.binds x.1) ∧ Q.spells t e

/-- Marks are added to the first symbol, or to the exit if there is none. -/
def overlay (P : Behaviour) (added : Marks) : Behaviour where
  opens := P.opens
  binds := P.binds
  spells
    | [], e => ∃ exit, P.spells [] exit ∧ e = exit ∪ added
    | (x, M) :: t, e => ∃ marks, P.spells ((x, marks) :: t) e ∧ M = marks ∪ added

/-- Consume one ordinal of a class, with the given marks. -/
def consume (members : Nat → Prop) (marks : Marks) (P : Behaviour) : Behaviour where
  opens _ := False
  binds := members
  spells
    | [], _ => False
    | (x, M) :: t, e => members x ∧ M = marks ∧ P.spells t e

/-- The behaviour of a loop entry, from those of a round and of the tail. -/
def choose : LoopPolicy → Behaviour → Behaviour → Behaviour
  | .plain, round, tail => either round tail
  | .extending, round, tail => prefer round tail
  | .limiting, round, tail => prefer tail round

/-- What stands in front of a tail: the tail's behaviour before the first symbol and after it. -/
abbrev Context := Behaviour → Behaviour → Behaviour

/-- Copies of `F` in front of each other; in front of some of them the copies may end. -/
def copies (F : Context) (mayEnd : Nat → Bool) : List Nat → Context
  | [], first, _ => first
  | k :: ks, first, later =>
    let again := F (copies F mayEnd ks first later) (copies F mayEnd ks later later)
    if mayEnd k then either again first else again

/-- A loop that gives up after some rounds. -/
def rounds (F : Context) (policy : LoopPolicy) (later : Behaviour) : Nat → Behaviour
  | 0 => silent
  | n + 1 => choose policy (F silent (rounds F policy later n)) later

/-- The entry of a loop once a symbol has been consumed. -/
def fixed (F : Context) (policy : LoopPolicy) (later : Behaviour) : Behaviour where
  opens := (rounds F policy later 1).opens
  binds := (rounds F policy later 1).binds
  spells t e := (rounds F policy later (t.length + 1)).spells t e

/-- The entry of a loop. -/
def entry (F : Context) (policy : LoopPolicy) : Context := fun first later =>
  choose policy (F silent (fixed F policy later)) first

def loop (F : Context) (min : Nat) (policy : LoopPolicy) : Context := fun first later =>
  if min = 0 then entry F policy first later
  else
    let again := fixed F policy later
    copies F (fun _ => false) (List.range (min - 1)) (F (entry F policy first later) again) (F again again)

/-- Equal on traces shorter than `n`, and on the first step if there are any. -/
structure Agrees (n : Nat) (P Q : Behaviour) : Prop where
  opens : 0 < n → ∀ b, P.opens b ↔ Q.opens b
  binds : 0 < n → ∀ x, P.binds x ↔ Q.binds x
  spells : ∀ t e, t.length < n → (P.spells t e ↔ Q.spells t e)

/-- What the context does with the tail after the first symbol shows on longer traces only. -/
def Guarded (F : Context) : Prop := ∀ {n P P' Q Q'}, Agrees (n + 1) P P' → Agrees n Q Q' →
  Agrees (n + 1) (F P Q) (F P' Q')

@[simp] theorem either_silent (P : Behaviour) : either P silent = P := by
  ext <;> simp [either, silent]

@[simp] theorem silent_either (P : Behaviour) : either silent P = P := by
  ext <;> simp [either, silent]

theorem either_assoc (P Q R : Behaviour) : either (either P Q) R = either P (either Q R) := by
  ext <;> simp only [either, or_assoc]

/-- The behaviour of several alternatives. -/
def oneOf (alternatives : List Behaviour) : Behaviour := alternatives.foldr either silent

variable {n m : Nat} {P P' Q Q' : Behaviour} {F : Context} {policy : LoopPolicy}

theorem agrees_zero (P Q : Behaviour) : Agrees 0 P Q :=
  ⟨fun h => absurd h (Nat.lt_irrefl 0), fun h => absurd h (Nat.lt_irrefl 0),
    fun _ _ h => absurd h (Nat.not_lt_zero _)⟩

theorem Agrees.refl (n : Nat) (P : Behaviour) : Agrees n P P :=
  ⟨fun _ _ => Iff.rfl, fun _ _ => Iff.rfl, fun _ _ _ => Iff.rfl⟩

theorem Agrees.symm (h : Agrees n P Q) : Agrees n Q P :=
  ⟨fun hn b => (h.opens hn b).symm, fun hn x => (h.binds hn x).symm,
    fun t e ht => (h.spells t e ht).symm⟩

theorem Agrees.trans (h : Agrees n P Q) (h' : Agrees n Q Q') : Agrees n P Q' :=
  ⟨fun hn b => (h.opens hn b).trans (h'.opens hn b), fun hn x => (h.binds hn x).trans (h'.binds hn x),
    fun t e ht => (h.spells t e ht).trans (h'.spells t e ht)⟩

theorem Agrees.mono (h : Agrees n P Q) (hm : m ≤ n) : Agrees m P Q :=
  ⟨fun hn => h.opens (Nat.lt_of_lt_of_le hn hm), fun hn => h.binds (Nat.lt_of_lt_of_le hn hm),
    fun t e ht => h.spells t e (Nat.lt_of_lt_of_le ht hm)⟩

/-- Behaviours that agree on all traces are equal. -/
theorem eq_of_agrees (h : ∀ n, Agrees n P Q) : P = Q := by
  ext x
  · exact (h 1).opens (Nat.succ_pos 0) x
  · exact (h 1).binds (Nat.succ_pos 0) x
  · exact (h _).spells x _ (Nat.lt_succ_self _)

theorem agrees_either (hP : Agrees n P P') (hQ : Agrees n Q Q') : Agrees n (either P Q) (either P' Q') :=
  ⟨fun hn b => or_congr (hP.opens hn b) (hQ.opens hn b),
    fun hn x => or_congr (hP.binds hn x) (hQ.binds hn x),
    fun t e ht => or_congr (hP.spells t e ht) (hQ.spells t e ht)⟩

theorem agrees_prefer (hP : Agrees n P P') (hQ : Agrees n Q Q') : Agrees n (prefer P Q) (prefer P' Q') where
  opens hn b := or_congr (hP.opens hn b) (hQ.opens hn b)
  binds hn x := or_congr (hP.binds hn x) (hQ.binds hn x)
  spells t e ht := by
    have hn : 0 < n := Nat.lt_of_le_of_lt (Nat.zero_le _) ht
    simp only [prefer, hP.spells t e ht, hQ.spells t e ht, hP.binds hn]

theorem agrees_overlay (hP : Agrees n P P') (added : Marks) :
    Agrees n (P.overlay added) (P'.overlay added) where
  opens := hP.opens
  binds := hP.binds
  spells t e ht := by
    cases t with
    | nil => simp only [overlay, hP.spells [] _ ht]
    | cons a t => exact exists_congr fun marks => and_congr_left' (hP.spells ((a.1, marks) :: t) e ht)

theorem agrees_consume (hP : Agrees n P P') (members : Nat → Prop) (marks : Marks) :
    Agrees (n + 1) (consume members marks P) (consume members marks P') where
  opens _ _ := Iff.rfl
  binds _ _ := Iff.rfl
  spells t e ht := by
    cases t with
    | nil => exact Iff.rfl
    | cons a t => simp only [consume, hP.spells t e (Nat.lt_of_succ_lt_succ ht)]

theorem agrees_choose (hP : Agrees n P P') (hQ : Agrees n Q Q') :
    Agrees n (choose policy P Q) (choose policy P' Q') := by
  cases policy with
  | plain => exact agrees_either hP hQ
  | extending => exact agrees_prefer hP hQ
  | limiting => exact agrees_prefer hQ hP

theorem Guarded.agrees (hF : Guarded F) (hP : Agrees n P P') (hQ : Agrees n Q Q') :
    Agrees n (F P Q) (F P' Q') := by
  cases n with
  | zero => exact agrees_zero ..
  | succ n => exact hF hP (hQ.mono (Nat.le_succ n))

theorem guarded_copies (hF : Guarded F) (mayEnd : Nat → Bool) (ks : List Nat) :
    Guarded (copies F mayEnd ks) := by
  induction ks with
  | nil => exact fun hP _ => hP
  | cons k ks ih =>
    intro n P P' Q Q' hP hQ
    have hlater : Agrees n (copies F mayEnd ks Q Q) (copies F mayEnd ks Q' Q') := ih.agrees hQ hQ
    have hagain := hF (ih hP hQ) hlater
    simp only [copies]
    split
    · exact agrees_either hagain hP
    · exact hagain

/-- More rounds do not change what few rounds settle. -/
theorem agrees_rounds (hF : Guarded F) (hQ : Agrees n Q Q') {a b : Nat} (ha : n ≤ a) (hb : n ≤ b) :
    Agrees n (rounds F policy Q a) (rounds F policy Q' b) := by
  induction n generalizing a b with
  | zero => exact agrees_zero ..
  | succ n ih =>
    obtain ⟨a, rfl⟩ := Nat.exists_eq_add_of_le' (Nat.lt_of_lt_of_le (Nat.succ_pos n) ha)
    obtain ⟨b, rfl⟩ := Nat.exists_eq_add_of_le' (Nat.lt_of_lt_of_le (Nat.succ_pos n) hb)
    have hinner := ih (hQ.mono (Nat.le_succ n)) (Nat.le_of_succ_le_succ ha) (Nat.le_of_succ_le_succ hb)
    exact agrees_choose (hF (.refl _ _) hinner) hQ

theorem agrees_fixed_rounds (hF : Guarded F) (Q : Behaviour) {a : Nat} (ha : n ≤ a) :
    Agrees n (fixed F policy Q) (rounds F policy Q a) where
  opens hn b := (agrees_rounds hF (.refl 1 Q) (Nat.le_refl 1) (Nat.le_trans hn ha)).opens (Nat.succ_pos 0) b
  binds hn x := (agrees_rounds hF (.refl 1 Q) (Nat.le_refl 1) (Nat.le_trans hn ha)).binds (Nat.succ_pos 0) x
  spells t e ht :=
    (agrees_rounds hF (.refl (t.length + 1) Q) (Nat.le_refl _) (Nat.le_trans ht ha)).spells t e
      (Nat.lt_succ_self _)

theorem agrees_fixed (hF : Guarded F) (hQ : Agrees n Q Q') :
    Agrees n (fixed F policy Q) (fixed F policy Q') :=
  ((agrees_fixed_rounds hF Q (Nat.le_refl n)).trans (agrees_rounds hF hQ (Nat.le_refl n) (Nat.le_refl n))).trans
    (agrees_fixed_rounds hF Q' (Nat.le_refl n)).symm

/-- A loop is one more round, or its tail. -/
theorem fixed_eq (hF : Guarded F) (Q : Behaviour) :
    fixed F policy Q = choose policy (F silent (fixed F policy Q)) Q := by
  refine eq_of_agrees fun n => ?_
  have hround : Agrees n (fixed F policy Q) (rounds F policy Q (n + 1)) :=
    agrees_fixed_rounds hF Q (Nat.le_succ n)
  refine hround.trans (agrees_choose ?_ (.refl n Q))
  exact hF.agrees (.refl n _) (agrees_fixed_rounds hF Q (Nat.le_refl n)).symm

/-- There is no other behaviour that is one more round of itself, or the tail. -/
theorem fixed_unique (hF : Guarded F) {L : Behaviour} (hL : L = choose policy (F silent L) Q) :
    L = fixed F policy Q := by
  refine eq_of_agrees fun n => ?_
  induction n with
  | zero => exact agrees_zero ..
  | succ n ih =>
    rw [hL, fixed_eq hF]
    exact agrees_choose (hF (.refl _ _) ih) (.refl _ Q)

/-- The context leads to no other markers than the tail. -/
def Inward (F : Context) : Prop := ∀ {P Q b}, (F P Q).opens b → P.opens b

theorem inward_copies (hF : Inward F) (mayEnd : Nat → Bool) (ks : List Nat) :
    Inward (copies F mayEnd ks) := by
  induction ks with
  | nil => exact id
  | cons k ks ih =>
    intro P Q b hb
    simp only [copies] at hb
    split at hb
    · exact hb.elim (fun h => ih (hF h)) id
    · exact ih (hF hb)

theorem opens_choose {b : Nat} : (choose policy P Q).opens b ↔ P.opens b ∨ Q.opens b := by
  cases policy with
  | plain => exact Iff.rfl
  | extending => exact Iff.rfl
  | limiting => exact or_comm

theorem inward_loop (hF : Inward F) (min : Nat) : Inward (loop F min policy) := by
  have hentry : Inward (entry F policy) := fun hb => (opens_choose.1 hb).elim (fun h => (hF h).elim) id
  intro P Q b hb
  simp only [loop] at hb
  split at hb
  · exact hentry hb
  · exact hentry (hF (inward_copies hF _ _ hb))

theorem guarded_entry (hF : Guarded F) : Guarded (entry F policy) := fun hP hQ =>
  agrees_choose (hF (.refl _ _) (agrees_fixed hF hQ)) hP

theorem guarded_loop (hF : Guarded F) (min : Nat) : Guarded (loop F min policy) := by
  intro n P P' Q Q' hP hQ
  have hagain : Agrees n (fixed F policy Q) (fixed F policy Q') := agrees_fixed hF hQ
  have hentry : Agrees (n + 1) (entry F policy P Q) (entry F policy P' Q') := guarded_entry hF hP hQ
  simp only [loop]
  split
  · exact hentry
  · exact guarded_copies hF _ _ (hF hentry hagain) (hF.agrees hagain hagain)

end Behaviour

namespace Pattern

open Behaviour

mutual

/-- The behaviour of a pattern in front of a tail, with marks owed to its last symbols. -/
def behave (σ : Alphabet) (layout : Layout) (p : Pattern) (owed : Marks) (first later : Behaviour) :
    Behaviour :=
  match p with
  | symbols ranges => consume (fun x => Interval.covers ranges x = true ∧ x < σ.limit) owed later
  | sequence items => behaveSequence σ layout items owed first later
  | select branches => behaveEach σ layout branches owed first later
  | counted body counts =>
    copies (behave σ layout body owed) (hasCount counts) (List.range (counts.getLastD 0)) first later
  | loop body min policy => Behaviour.loop (behave σ layout body owed) min policy first later
  | optional body => either (behave σ layout body owed first later) first
  | group label body =>
    match layout.slotOf? label with
    | none => behave σ layout body owed first later
    | some slot =>
      let ending (P : Behaviour) := if body.nullable then P.overlay (.closing slot false) else P
      (behave σ layout body (owed ∪ .closing slot true) (ending first) (ending later)).overlay
        (.opening slot)

/-- The items in front of each other; those behind which all can match nothing owe the marks. -/
def behaveSequence (σ : Alphabet) (layout : Layout) (items : List Pattern) (owed : Marks)
    (first later : Behaviour) : Behaviour :=
  match items with
  | [] => first
  | item :: rest =>
    behave σ layout item (if allNullable rest then owed else ∅)
      (behaveSequence σ layout rest owed first later) (behaveSequence σ layout rest owed later later)

def behaveEach (σ : Alphabet) (layout : Layout) (branches : List Pattern) (owed : Marks)
    (first later : Behaviour) : Behaviour :=
  match branches with
  | [] => silent
  | branch :: rest =>
    either (behave σ layout branch owed first later) (behaveEach σ layout rest owed first later)

end

mutual

theorem guarded_behave (σ : Alphabet) (layout : Layout) (owed : Marks) :
    ∀ p : Pattern, Guarded (p.behave σ layout owed)
  | symbols ranges => fun _ hQ => agrees_consume hQ _ _
  | sequence items => fun hP hQ => guarded_behaveSequence σ layout owed items hP hQ
  | select branches => fun hP hQ => guarded_behaveEach σ layout owed branches hP hQ
  | counted body counts => fun hP hQ =>
    guarded_copies (guarded_behave σ layout owed body) _ _ hP hQ
  | loop body min policy => fun hP hQ => guarded_loop (guarded_behave σ layout owed body) min hP hQ
  | optional body => fun hP hQ => agrees_either (guarded_behave σ layout owed body hP hQ) hP
  | group label body => fun hP hQ => by
    simp only [behave]
    cases layout.slotOf? label with
    | none => exact guarded_behave σ layout owed body hP hQ
    | some slot =>
      refine agrees_overlay (guarded_behave σ layout _ body ?_ ?_) _
      · split
        · exact agrees_overlay hP _
        · exact hP
      · split
        · exact agrees_overlay hQ _
        · exact hQ

theorem guarded_behaveSequence (σ : Alphabet) (layout : Layout) (owed : Marks) :
    ∀ items : List Pattern, Guarded (behaveSequence σ layout items owed)
  | [] => fun hP _ => hP
  | item :: rest => fun hP hQ => by
    have hrest : Guarded (behaveSequence σ layout rest owed) :=
      guarded_behaveSequence σ layout owed rest
    exact guarded_behave σ layout _ item (hrest hP hQ) (hrest.agrees hQ hQ)

theorem guarded_behaveEach (σ : Alphabet) (layout : Layout) (owed : Marks) :
    ∀ branches : List Pattern, Guarded (behaveEach σ layout branches owed)
  | [] => fun _ _ => .refl _ _
  | branch :: rest => fun hP hQ =>
    agrees_either (guarded_behave σ layout owed branch hP hQ) (guarded_behaveEach σ layout owed rest hP hQ)

end

mutual

theorem inward_behave (σ : Alphabet) (layout : Layout) (owed : Marks) :
    ∀ p : Pattern, Inward (p.behave σ layout owed)
  | symbols ranges => False.elim
  | sequence items => fun hb => inward_behaveSequence σ layout owed items hb
  | select branches => fun hb => inward_behaveEach σ layout owed branches hb
  | counted body counts => fun hb => inward_copies (inward_behave σ layout owed body) _ _ hb
  | loop body min policy => fun hb => inward_loop (inward_behave σ layout owed body) min hb
  | optional body => fun hb => hb.elim (inward_behave σ layout owed body) id
  | group label body => fun hb => by
    simp only [behave] at hb
    cases hs : layout.slotOf? label with
    | none =>
      rw [hs] at hb
      exact inward_behave σ layout owed body hb
    | some slot =>
      rw [hs] at hb
      have hfirst := inward_behave σ layout _ body hb
      split at hfirst
      · exact hfirst
      · exact hfirst

theorem inward_behaveSequence (σ : Alphabet) (layout : Layout) (owed : Marks) :
    ∀ items : List Pattern, Inward (behaveSequence σ layout items owed)
  | [] => id
  | item :: rest => fun hb => by
    have hrest : Inward (behaveSequence σ layout rest owed) := inward_behaveSequence σ layout owed rest
    exact hrest (inward_behave σ layout _ item hb)

theorem inward_behaveEach (σ : Alphabet) (layout : Layout) (owed : Marks) :
    ∀ branches : List Pattern, Inward (behaveEach σ layout branches owed)
  | [] => False.elim
  | branch :: rest => fun hb =>
    hb.elim (inward_behave σ layout owed branch) (inward_behaveEach σ layout owed rest)

end

end Pattern

end Polymatch
