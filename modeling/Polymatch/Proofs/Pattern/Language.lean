import Mathlib.Computability.Language
import Mathlib.Data.List.Pairwise
import Polymatch.Proofs.Interval.Gaps
import Polymatch.Proofs.Pattern.Behaviour

/-! # Languages of patterns

The language of a pattern is built up from its parts in the usual way. A behaviour
reads the inputs that it spells, and a pattern reads a word of its language in front
of what the tail reads. Without exclusive loops there is a way to read every word.
Loops need care where the body matches the empty input: a round without a symbol
ends the loop.
-/

namespace Polymatch

open Computability

/-- All ordinals of the input belong to the alphabet. -/
def Alphabet.Admits (σ : Alphabet) (w : List Nat) : Prop := ∀ x ∈ w, x < σ.limit

namespace Pattern

mutual

/-- The inputs that a pattern stands for. -/
def lang : Pattern → Language Nat
  | symbols ranges => {w | ∃ x, Interval.covers ranges x = true ∧ w = [x]}
  | sequence items => langInOrder items
  | select branches => langOfAny branches
  | counted body counts => {w | ∃ n ∈ counts, w ∈ body.lang ^ n}
  | loop body min _ => {w | ∃ n ≥ min, w ∈ body.lang ^ n}
  | optional body => body.lang + 1
  | group _ body => body.lang

def langInOrder : List Pattern → Language Nat
  | [] => 1
  | item :: rest => item.lang * langInOrder rest

def langOfAny : List Pattern → Language Nat
  | [] => 0
  | branch :: rest => branch.lang + langOfAny rest

end

end Pattern

/-- The language of copies that may end in front of some of them. -/
def Behaviour.copiesLang (L : Language Nat) (mayEnd : Nat → Bool) : List Nat → Language Nat
  | [] => 1
  | k :: ks => L * copiesLang L mayEnd ks + if mayEnd k then 1 else 0

namespace Pattern

mutual

/-- The inputs that a pattern stands for if none of its loops is exclusive. -/
def lax : Pattern → Language Nat
  | symbols ranges => {w | ∃ x, Interval.covers ranges x = true ∧ w = [x]}
  | sequence items => laxInOrder items
  | select branches => laxOfAny branches
  | counted body counts =>
    Behaviour.copiesLang body.lax (hasCount counts) (List.range (counts.getLastD 0))
  | loop body min _ => body.lax ^ min * body.lax∗
  | optional body => body.lax + 1
  | group _ body => body.lax

def laxInOrder : List Pattern → Language Nat
  | [] => 1
  | item :: rest => item.lax * laxInOrder rest

def laxOfAny : List Pattern → Language Nat
  | [] => 0
  | branch :: rest => branch.lax + laxOfAny rest

end

end Pattern

namespace Behaviour

variable {P Q : Behaviour} {σ : Alphabet} {F G : Context} {L M A A' B B' C : Language Nat} {w : List Nat}

/-- The inputs that a behaviour spells, whatever the marks. -/
def reads (P : Behaviour) : Language Nat := {w | ∃ t e, t.map Prod.fst = w ∧ P.spells t e}

theorem mem_reads : w ∈ P.reads ↔ ∃ t e, t.map Prod.fst = w ∧ P.spells t e := Iff.rfl

@[simp] theorem reads_silent : silent.reads = 0 := by
  ext w
  simp [mem_reads, silent]

@[simp] theorem reads_done : done.reads = 1 := by
  ext w
  rw [mem_reads, Language.mem_one]
  constructor
  · rintro ⟨t, e, rfl, rfl, -⟩
    rfl
  · rintro rfl
    exact ⟨[], ∅, rfl, rfl, rfl⟩

@[simp] theorem reads_either (P Q : Behaviour) : (either P Q).reads = P.reads + Q.reads := by
  ext w
  simp only [mem_reads, Language.mem_add, either, and_or_left, exists_or]

@[simp] theorem reads_overlay (P : Behaviour) (added : Marks) : (P.overlay added).reads = P.reads := by
  ext w
  simp only [mem_reads]
  constructor
  · rintro ⟨_ | ⟨⟨x, M⟩, t⟩, e, rfl, h⟩
    · obtain ⟨exit, hexit, -⟩ := h
      exact ⟨[], exit, rfl, hexit⟩
    · obtain ⟨marks, hm, -⟩ := h
      exact ⟨(x, marks) :: t, e, rfl, hm⟩
  · rintro ⟨_ | ⟨⟨x, M⟩, t⟩, e, rfl, h⟩
    · exact ⟨[], _, rfl, e, h, rfl⟩
    · exact ⟨(x, M ∪ added) :: t, e, rfl, M, h, rfl⟩

theorem mem_reads_consume {members : Nat → Prop} {marks : Marks} :
    w ∈ (consume members marks P).reads ↔ ∃ x v, x :: v = w ∧ members x ∧ v ∈ P.reads := by
  constructor
  · rintro ⟨_ | ⟨⟨x, M⟩, t⟩, e, rfl, h⟩
    · exact h.elim
    · obtain ⟨hx, -, ht⟩ := h
      exact ⟨x, t.map Prod.fst, rfl, hx, t, e, rfl, ht⟩
  · rintro ⟨x, _, rfl, hx, t, e, rfl, ht⟩
    exact ⟨(x, marks) :: t, e, rfl, hx, rfl, ht⟩

/-- Words of `L` in front of a tail; in front of the first symbol the tail is `A`, else `B`. -/
def leading (L A B : Language Nat) : Language Nat :=
  {w | ∃ u ∈ L, ∃ v, u ++ v = w ∧ (u = [] → v ∈ A) ∧ (u ≠ [] → v ∈ B)}

theorem mem_leading : w ∈ leading L A B ↔
    ∃ u ∈ L, ∃ v, u ++ v = w ∧ (u = [] → v ∈ A) ∧ (u ≠ [] → v ∈ B) := Iff.rfl

@[simp] theorem leading_one : leading 1 A B = A := by
  ext w
  rw [mem_leading]
  constructor
  · rintro ⟨u, hu, v, rfl, hA, -⟩
    obtain rfl := (Language.mem_one u).1 hu
    exact hA rfl
  · exact fun hw => ⟨[], rfl, w, rfl, fun _ => hw, fun h => absurd rfl h⟩

@[simp] theorem leading_zero : leading 0 A B = 0 := by
  ext w
  simp [mem_leading]

theorem leading_self : leading L A A = L * A := by
  ext w
  rw [mem_leading, Language.mem_mul]
  refine exists_congr fun u => and_congr_right fun _ => exists_congr fun v => ?_
  by_cases h : u = []
  · simp [h, and_comm]
  · simp [h, and_comm]

theorem leading_add : leading (L + M) A B = leading L A B + leading M A B := by
  ext w
  simp only [mem_leading, Language.mem_add, or_and_right, exists_or]

/-- A word of a product leads with its first part in front of the second one. -/
theorem leading_mul : leading (L * M) A B = leading L (leading M A B) (leading M B B) := by
  ext w
  constructor
  · rintro ⟨_, ⟨l, hl, m, hm, rfl⟩, v, rfl, hA, hB⟩
    refine ⟨l, hl, m ++ v, (List.append_assoc ..).symm, ?_, ?_⟩
    · rintro rfl
      exact ⟨m, hm, v, rfl, hA, hB⟩
    · intro hne
      have hv := hB fun h => hne (List.append_eq_nil_iff.1 h).1
      exact ⟨m, hm, v, rfl, fun _ => hv, fun _ => hv⟩
  · rintro ⟨l, hl, v, rfl, hA, hB⟩
    by_cases h : l = []
    · subst h
      obtain ⟨m, hm, v, rfl, hA, hB⟩ := hA rfl
      exact ⟨[] ++ m, Language.mem_mul.2 ⟨[], hl, m, hm, rfl⟩, v, rfl, hA, hB⟩
    · obtain ⟨m, hm, v, rfl, hm', hm''⟩ := hB h
      have hv : v ∈ B := by
        by_cases h' : m = []
        · exact hm' h'
        · exact hm'' h'
      exact ⟨l ++ m, Language.mem_mul.2 ⟨l, hl, m, hm, rfl⟩, v, List.append_assoc ..,
        fun h' => absurd (List.append_eq_nil_iff.1 h').1 h, fun _ => hv⟩

/-- A word of a star leads with a round that is not empty, or has no round at all. -/
theorem leading_kstar : leading L∗ A B = leading L 0 (leading L∗ B B) + A := by
  ext w
  rw [Language.mem_add]
  constructor
  · rintro ⟨u, hu, v, rfl, hA, hB⟩
    obtain ⟨_ | ⟨y, S⟩, rfl, hS⟩ := Language.mem_kstar_iff_exists_nonempty.1 hu
    · exact .inr (hA rfl)
    · obtain ⟨⟨hy, hne⟩, hS⟩ := List.forall_mem_cons.1 hS
      have hv := hB fun h => hne (List.append_eq_nil_iff.1 h).1
      refine .inl ⟨y, hy, S.flatten ++ v, (List.append_assoc ..).symm, fun h => absurd h hne, fun _ => ?_⟩
      exact ⟨S.flatten, Language.join_mem_kstar fun z hz => (hS z hz).1, v, rfl, fun _ => hv, fun _ => hv⟩
  · rintro (⟨y, hy, v, rfl, h0, hB⟩ | hw)
    · by_cases hne : y = []
      · exact absurd (h0 hne) (Language.notMem_zero v)
      · obtain ⟨u, hu, v, rfl, hu', hu''⟩ := hB hne
        have hv : v ∈ B := by
          by_cases h' : u = []
          · exact hu' h'
          · exact hu'' h'
        have hyu : y ++ u ∈ L∗ := by
          rw [← Language.one_add_self_mul_kstar_eq_kstar]
          exact .inr (Language.mem_mul.2 ⟨y, hy, u, hu, rfl⟩)
        exact ⟨y ++ u, hyu, v, List.append_assoc .., fun h => absurd (List.append_eq_nil_iff.1 h).1 hne,
          fun _ => hv⟩
    · exact ⟨[], Language.nil_mem_kstar L, w, rfl, fun _ => hw, fun h => absurd rfl h⟩

/-- All words of the first language belong to the second, and if that is exact, they are all of its
words over the alphabet. -/
def Bounded (σ : Alphabet) (exact : Prop) (A B : Language Nat) : Prop :=
  ∀ w, (w ∈ A → w ∈ B) ∧ (exact → σ.Admits w → w ∈ B → w ∈ A)

variable {exact : Prop} {policy : LoopPolicy}

namespace Bounded

theorem refl (A : Language Nat) : Bounded σ exact A A := fun _ => ⟨id, fun _ _ => id⟩

theorem trans (h : Bounded σ exact A B) (h' : Bounded σ exact B C) : Bounded σ exact A C := fun w =>
  ⟨fun hw => (h' w).1 ((h w).1 hw), fun hex hσ hw => (h w).2 hex hσ ((h' w).2 hex hσ hw)⟩

theorem of_eq (h : A = B) : Bounded σ exact A B := h ▸ refl A

theorem add (h : Bounded σ exact A A') (h' : Bounded σ exact B B') :
    Bounded σ exact (A + B) (A' + B') := fun w =>
  ⟨Or.imp (h w).1 (h' w).1, fun hex hσ => Or.imp ((h w).2 hex hσ) ((h' w).2 hex hσ)⟩

/-- The rest of an input over the alphabet is an input over the alphabet. -/
theorem leading (hA : Bounded σ exact A A') (hB : Bounded σ exact B B') :
    Bounded σ exact (leading L A B) (Behaviour.leading L A' B') := by
  intro w
  constructor
  · rintro ⟨u, hu, v, rfl, hA', hB'⟩
    exact ⟨u, hu, v, rfl, fun h => (hA v).1 (hA' h), fun h => (hB v).1 (hB' h)⟩
  · rintro hex hσ ⟨u, hu, v, rfl, hA', hB'⟩
    have hv : σ.Admits v := fun x hx => hσ x (List.mem_append_right u hx)
    exact ⟨u, hu, v, rfl, fun h => (hA v).2 hex hv (hA' h), fun h => (hB v).2 hex hv (hB' h)⟩

/-- Only an exclusive loop drops ways to read an input. -/
theorem choose (hpolicy : exact → policy = .plain) (P Q : Behaviour) :
    Bounded σ exact (choose policy P Q).reads (P.reads + Q.reads) := by
  intro w
  constructor
  · rintro ⟨t, e, rfl, h⟩
    cases policy with
    | plain => exact h.imp (fun h => ⟨t, e, rfl, h⟩) fun h => ⟨t, e, rfl, h⟩
    | extending => exact h.imp (fun h => ⟨t, e, rfl, h⟩) fun h => ⟨t, e, rfl, h.2⟩
    | limiting => exact h.symm.imp (fun h => ⟨t, e, rfl, h.2⟩) fun h => ⟨t, e, rfl, h⟩
  · intro hex _ hw
    rwa [hpolicy hex, Behaviour.choose, reads_either]

end Bounded

/-- In front of a tail, the context reads words of `L` in front of what the tail reads. -/
def Denotes (σ : Alphabet) (exact : Prop) (F : Context) (L : Language Nat) : Prop :=
  ∀ P Q : Behaviour, Bounded σ exact (F P Q).reads (leading L P.reads Q.reads)

theorem Denotes.comp (hF : Denotes σ exact F L) (hG : Denotes σ exact G M) :
    Denotes σ exact (fun P Q => F (G P Q) (G Q Q)) (L * M) := by
  intro P Q
  rw [leading_mul]
  exact (hF _ _).trans ((hG P Q).leading (hG Q Q))

theorem denotes_copies (hF : Denotes σ exact F L) (mayEnd : Nat → Bool) (ks : List Nat) :
    Denotes σ exact (copies F mayEnd ks) (copiesLang L mayEnd ks) := by
  induction ks with
  | nil => exact fun P Q => .of_eq leading_one.symm
  | cons k ks ih =>
    intro P Q
    simp only [copies, copiesLang, leading_add]
    have hagain := hF.comp ih P Q
    split
    · rw [reads_either, leading_one]
      exact hagain.add (.refl _)
    · rw [leading_zero, add_zero]
      exact hagain

theorem mem_copiesLang {mayEnd : Nat → Bool} {s n : Nat} :
    w ∈ copiesLang L mayEnd (List.range' s n) ↔
      w ∈ L ^ n ∨ ∃ i < n, mayEnd (s + i) = true ∧ w ∈ L ^ i := by
  induction n generalizing s w with
  | zero => simp [copiesLang]
  | succ n ih =>
    simp only [List.range'_succ, copiesLang, Language.mem_add, Language.mem_mul, ih]
    constructor
    · rintro (⟨a, ha, b, hb | ⟨i, hi, hk, hb⟩, rfl⟩ | hw)
      · exact .inl (pow_succ' L n ▸ Language.mem_mul.2 ⟨a, ha, b, hb, rfl⟩)
      · refine .inr ⟨i + 1, Nat.succ_lt_succ hi, ?_, pow_succ' L i ▸ Language.mem_mul.2 ⟨a, ha, b, hb, rfl⟩⟩
        rwa [Nat.add_assoc, Nat.add_comm 1 i] at hk
      · split at hw
        · exact .inr ⟨0, Nat.succ_pos n, by assumption, by rwa [pow_zero]⟩
        · exact absurd hw (Language.notMem_zero w)
    · rintro (hw | ⟨_ | i, hi, hk, hw⟩)
      · rw [pow_succ'] at hw
        obtain ⟨a, ha, b, hb, rfl⟩ := Language.mem_mul.1 hw
        exact .inl ⟨a, ha, b, .inl hb, rfl⟩
      · rw [Nat.add_zero] at hk
        rw [pow_zero] at hw
        exact .inr (by rwa [if_pos hk])
      · rw [pow_succ'] at hw
        obtain ⟨a, ha, b, hb, rfl⟩ := Language.mem_mul.1 hw
        refine .inl ⟨a, ha, b, .inr ⟨i, Nat.lt_of_succ_lt_succ hi, ?_, hb⟩, rfl⟩
        rwa [Nat.add_assoc, Nat.add_comm 1 i]

theorem copiesLang_false (L : Language Nat) (n : Nat) :
    copiesLang L (fun _ => false) (List.range n) = L ^ n := by
  ext w
  rw [List.range_eq_range', mem_copiesLang]
  simp

/-- A loop that has moved reads some rounds in front of its tail. A round that reads a symbol leaves
less of the input to the next one. -/
theorem bounded_fixed (hguard : Guarded F) (hF : Denotes σ exact F L) (hpolicy : exact → policy = .plain)
    (Q : Behaviour) :
    Bounded σ exact (fixed F policy Q).reads (leading L∗ Q.reads Q.reads) := by
  intro w
  induction hn : w.length using Nat.strongRecOn generalizing w with
  | ind n ih =>
    subst hn
    have hshorter : ∀ {u v}, u ++ v = w → u ≠ [] → v.length < w.length := by
      rintro u v rfl hne
      have hpos : 0 < u.length := List.length_pos_iff.2 hne
      rw [List.length_append]
      omega
    have hround : Bounded σ exact (F silent (fixed F policy Q)).reads (leading L 0 (fixed F policy Q).reads) := by
      have := hF silent (fixed F policy Q)
      rwa [reads_silent] at this
    have hchoose := Bounded.choose (σ := σ) hpolicy (F silent (fixed F policy Q)) Q w
    rw [← fixed_eq hguard] at hchoose
    rw [leading_kstar]
    constructor
    · intro hw
      rcases hchoose.1 hw with hw | hw
      · obtain ⟨u, hu, v, huv, h0, hv⟩ := (hround w).1 hw
        exact .inl ⟨u, hu, v, huv, h0, fun hne => (ih _ (hshorter huv hne) v rfl).1 (hv hne)⟩
      · exact .inr hw
    · rintro hex hσ (⟨u, hu, v, rfl, h0, hv⟩ | hw)
      · have hσv : σ.Admits v := fun x hx => hσ x (List.mem_append_right u hx)
        refine hchoose.2 hex hσ (.inl ((hround _).2 hex hσ ⟨u, hu, v, rfl, h0, fun hne => ?_⟩))
        exact (ih _ (hshorter rfl hne) v rfl).2 hex hσv (hv hne)
      · exact hchoose.2 hex hσ (.inr hw)

theorem denotes_entry (hguard : Guarded F) (hF : Denotes σ exact F L) (hpolicy : exact → policy = .plain) :
    Denotes σ exact (entry F policy) L∗ := by
  intro P Q
  rw [leading_kstar]
  have hround := hF silent (fixed F policy Q)
  rw [reads_silent] at hround
  have hrounds := hround.trans (.leading (.refl 0) (bounded_fixed hguard hF hpolicy Q))
  exact (Bounded.choose hpolicy _ _).trans (hrounds.add (.refl _))

theorem denotes_loop (hguard : Guarded F) (hF : Denotes σ exact F L) (min : Nat)
    (hpolicy : exact → policy = .plain) : Denotes σ exact (loop F min policy) (L ^ min * L∗) := by
  intro P Q
  cases min with
  | zero =>
    rw [pow_zero, one_mul]
    exact denotes_entry hguard hF hpolicy P Q
  | succ min =>
    have hround : ∀ P, Bounded σ exact (F (entry F policy P Q) (fixed F policy Q)).reads
        (leading (L * L∗) P.reads Q.reads) := by
      intro P
      rw [leading_mul]
      exact (hF _ _).trans
        ((denotes_entry hguard hF hpolicy P Q).leading (bounded_fixed hguard hF hpolicy Q))
    have hagain : F (fixed F policy Q) (fixed F policy Q) = F (entry F policy Q Q) (fixed F policy Q) := by
      rw [show entry F policy Q Q = fixed F policy Q from (fixed_eq hguard Q).symm]
    have hcopies := denotes_copies hF (fun _ => false) (List.range min)
    simp only [loop, Nat.add_one_ne_zero, if_false, Nat.add_sub_cancel]
    rw [pow_succ, mul_assoc, leading_mul, hagain, ← copiesLang_false]
    exact (hcopies _ _).trans ((hround P).leading (hround Q))

end Behaviour

namespace Pattern

open Behaviour

mutual

/-- No class names an ordinal twice, counts ascend and there are some, and loops are plain. -/
def Standard : Pattern → Prop
  | symbols ranges => ranges.Pairwise Interval.Apart
  | sequence items => AllStandard items
  | select branches => AllStandard branches
  | counted body counts => body.Standard ∧ counts ≠ [] ∧ counts.Pairwise (· ≤ ·)
  | loop body _ policy => body.Standard ∧ policy = .plain
  | optional body => body.Standard
  | group _ body => body.Standard

def AllStandard : List Pattern → Prop
  | [] => True
  | p :: rest => p.Standard ∧ AllStandard rest

end

variable {σ : Alphabet} {layout : Layout}

theorem labels_sublist {branches : List Pattern} {b : Pattern} (h : b ∈ branches) :
    b.labels.Sublist (allLabels branches) := by
  induction branches with
  | nil => exact nomatch h
  | cons c rest ih =>
    rcases List.mem_cons.1 h with rfl | h
    · exact List.sublist_append_left ..
    · exact (ih h).trans (List.sublist_append_right ..)

theorem standard_of_mem {branches : List Pattern} {b : Pattern} (hs : AllStandard branches) (h : b ∈ branches) :
    b.Standard := by
  induction branches with
  | nil => exact nomatch h
  | cons c rest ih =>
    rcases List.mem_cons.1 h with rfl | h
    · exact hs.1
    · exact ih hs.2 h

mutual

/-- Counts ascend, and there are some. -/
def Ascending : Pattern → Prop
  | symbols _ => True
  | sequence items => AllAscending items
  | select branches => AllAscending branches
  | counted body counts => body.Ascending ∧ counts ≠ [] ∧ counts.Pairwise (· ≤ ·)
  | loop body _ _ => body.Ascending
  | optional body => body.Ascending
  | group _ body => body.Ascending

def AllAscending : List Pattern → Prop
  | [] => True
  | p :: rest => p.Ascending ∧ AllAscending rest

end

theorem ascending_of_mem {branches : List Pattern} {b : Pattern} (hp : AllAscending branches) (h : b ∈ branches) :
    b.Ascending := by
  induction branches with
  | nil => exact nomatch h
  | cons c rest ih =>
    rcases List.mem_cons.1 h with rfl | h
    · exact hp.1
    · exact ih hp.2 h

mutual

theorem ascending_of_standard : ∀ p : Pattern, p.Standard → p.Ascending
  | symbols _ => fun _ => trivial
  | sequence items => allAscending_of_standard items
  | select branches => allAscending_of_standard branches
  | counted body _ => fun h => ⟨ascending_of_standard body h.1, h.2⟩
  | loop body _ _ => fun h => ascending_of_standard body h.1
  | optional body => ascending_of_standard body
  | group _ body => ascending_of_standard body

theorem allAscending_of_standard : ∀ items : List Pattern, AllStandard items → AllAscending items
  | [] => id
  | p :: rest => fun h => ⟨ascending_of_standard p h.1, allAscending_of_standard rest h.2⟩

end

/-- Copies are counted up to the last count, where they end, and may end at any count before. -/
theorem mem_counts_iff {counts : List Nat} (hne : counts ≠ []) (hsorted : counts.Pairwise (· ≤ ·)) {n : Nat} :
    n ∈ counts ↔ n = counts.getLastD 0 ∨ n < counts.getLastD 0 ∧ hasCount counts n = true := by
  have hlast : counts.getLastD 0 = counts.getLast hne := by
    rw [List.getLastD_eq_getLast?, List.getLast?_eq_some_getLast hne, Option.getD_some]
  rw [hlast, hasCount_iff hsorted]
  constructor
  · intro hn
    rcases Nat.lt_or_eq_of_le (hsorted.rel_getLast hn) with hlt | heq
    · exact .inr ⟨hlt, hn⟩
    · exact .inl heq
  · rintro (rfl | ⟨-, hn⟩)
    · exact List.getLast_mem hne
    · exact hn

theorem lang_counted_eq {L : Language Nat} {counts : List Nat} (hne : counts ≠ [])
    (hsorted : counts.Pairwise (· ≤ ·)) :
    copiesLang L (hasCount counts) (List.range (counts.getLastD 0)) =
      ({w | ∃ n ∈ counts, w ∈ L ^ n} : Language Nat) := by
  ext w
  rw [List.range_eq_range', mem_copiesLang]
  simp only [Nat.zero_add]
  constructor
  · rintro (hw | ⟨n, hlt, hn, hw⟩)
    · exact ⟨_, (mem_counts_iff hne hsorted).2 (.inl rfl), hw⟩
    · exact ⟨n, (mem_counts_iff hne hsorted).2 (.inr ⟨hlt, hn⟩), hw⟩
  · rintro ⟨n, hn, hw⟩
    rcases (mem_counts_iff hne hsorted).1 hn with rfl | ⟨hlt, hcount⟩
    · exact .inl hw
    · exact .inr ⟨n, hlt, hcount, hw⟩

theorem lang_loop_eq (L : Language Nat) (min : Nat) :
    L ^ min * L∗ = ({w | ∃ n ≥ min, w ∈ L ^ n} : Language Nat) := by
  ext w
  rw [Language.kstar_eq_iSup_pow, Language.mul_iSup, Language.mem_iSup]
  simp only [← pow_add]
  constructor
  · rintro ⟨k, hw⟩
    exact ⟨min + k, Nat.le_add_right min k, hw⟩
  · rintro ⟨n, hn, hw⟩
    exact ⟨n - min, by rwa [Nat.add_sub_cancel' hn]⟩

mutual

/-- If no loop is exclusive, the words that a pattern stands for are those of its language. -/
theorem lax_eq_lang : ∀ p : Pattern, p.Standard → p.lax = p.lang
  | symbols ranges => fun _ => rfl
  | sequence items => fun h => laxInOrder_eq items h
  | select branches => fun h => laxOfAny_eq branches h
  | counted body counts => fun h => by
    rw [lax, lang, lax_eq_lang body h.1, lang_counted_eq h.2.1 h.2.2]
  | loop body min policy => fun h => by
    rw [lax, lang, lax_eq_lang body h.1, lang_loop_eq]
  | optional body => fun h => by
    rw [lax, lang, lax_eq_lang body h]
  | group label body => fun h => lax_eq_lang body h

theorem laxInOrder_eq : ∀ items : List Pattern, AllStandard items → laxInOrder items = langInOrder items
  | [] => fun _ => rfl
  | item :: rest => fun h => by
    rw [laxInOrder, langInOrder, lax_eq_lang item h.1, laxInOrder_eq rest h.2]

theorem laxOfAny_eq : ∀ branches : List Pattern, AllStandard branches → laxOfAny branches = langOfAny branches
  | [] => fun _ => rfl
  | branch :: rest => fun h => by
    rw [laxOfAny, langOfAny, lax_eq_lang branch h.1, laxOfAny_eq rest h.2]

end

mutual

/-- A pattern reads words that it stands for, and all of them if no loop is exclusive. -/
theorem denotes_behave {exact : Prop} (layout : Layout) : ∀ (p : Pattern) (owed : Marks),
    (exact → p.Standard) → Denotes σ exact (p.behave σ layout owed) p.lax
  | symbols ranges, owed => fun _ P Q w => by
    rw [behave, mem_reads_consume]
    constructor
    · rintro ⟨x, v, rfl, hx, hv⟩
      exact ⟨[x], ⟨x, hx.1, rfl⟩, v, rfl, fun h => (nomatch h), fun _ => hv⟩
    · rintro - hσ ⟨_, ⟨x, hx, rfl⟩, v, rfl, -, hv⟩
      exact ⟨x, v, rfl, ⟨hx, hσ x List.mem_cons_self⟩, hv (List.cons_ne_nil x [])⟩
  | sequence items, owed => fun h => denotes_behaveSequence layout items owed h
  | select branches, owed => fun h => denotes_behaveEach layout branches owed h
  | counted body counts, owed => fun h =>
    denotes_copies (denotes_behave layout body owed fun hex => (h hex).1) (hasCount counts) _
  | loop body min policy, owed => fun h =>
    denotes_loop (guarded_behave σ layout owed body) (denotes_behave layout body owed fun hex => (h hex).1) min
      fun hex => (h hex).2
  | optional body, owed => fun h P Q => by
    rw [behave, reads_either, lax, leading_add, leading_one]
    exact (denotes_behave layout body owed h P Q).add (.refl _)
  | group label body, owed => fun h P Q => by
    simp only [behave, lax]
    cases layout.slotOf? label with
    | none => exact denotes_behave layout body owed h P Q
    | some slot =>
      have hending : ∀ R : Behaviour,
          (if body.nullable then R.overlay (.closing slot false) else R).reads = R.reads := by
        intro R
        split
        · exact reads_overlay R _
        · rfl
      have hbody := denotes_behave layout body (owed ∪ .closing slot true) h
        (if body.nullable then P.overlay (.closing slot false) else P)
        (if body.nullable then Q.overlay (.closing slot false) else Q)
      rw [hending, hending] at hbody
      rw [reads_overlay]
      exact hbody

theorem denotes_behaveSequence {exact : Prop} (layout : Layout) : ∀ (items : List Pattern) (owed : Marks),
    (exact → AllStandard items) → Denotes σ exact (behaveSequence σ layout items owed) (laxInOrder items)
  | [], _ => fun _ _ _ => .of_eq leading_one.symm
  | item :: rest, owed => fun h =>
    (denotes_behave layout item (if allNullable rest then owed else ∅) fun hex => (h hex).1).comp
      (denotes_behaveSequence layout rest owed fun hex => (h hex).2)

theorem denotes_behaveEach {exact : Prop} (layout : Layout) : ∀ (branches : List Pattern) (owed : Marks),
    (exact → AllStandard branches) → Denotes σ exact (behaveEach σ layout branches owed) (laxOfAny branches)
  | [], _ => fun _ _ _ => .of_eq (by rw [behaveEach, reads_silent, laxOfAny, leading_zero])
  | branch :: rest, owed => fun h P Q => by
    rw [behaveEach, reads_either, laxOfAny, leading_add]
    exact (denotes_behave layout branch owed (fun hex => (h hex).1) P Q).add
      (denotes_behaveEach layout rest owed (fun hex => (h hex).2) P Q)

end

end Pattern

end Polymatch
