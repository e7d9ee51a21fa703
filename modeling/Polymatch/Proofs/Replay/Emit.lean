import Polymatch.Proofs.Pattern.Language
import Polymatch.Proofs.Replay.Priority

/-! # Emitted code

The code of a pattern is appended to the code before and leads to the address
behind it alone. A run through it reads a word of the pattern, where loops may be
continued and left at any round: a program orders the threads of a loop by its
policy, but it does not drop any.
-/

namespace Polymatch

open Computability

namespace Program

variable {code code' : Array Instr} {next lo hi : Nat} {opens : Nat → Prop} {L M : Language Nat}
  {r r' : Nat × Array Instr} {w : List Nat}

/-- Some code contains a part of another. -/
def Contains (full part : Array Instr) (lo hi : Nat) : Prop :=
  ∀ i, lo ≤ i → i < hi → full[i]? = part[i]?

/-- An instruction between two addresses leads on there or to the address behind, and opens some
groups only. -/
structure Inner (next lo hi : Nat) (opens : Nat → Prop) (i : Instr) : Prop where
  not_accept : i ≠ .accept
  targets : ∀ c ∈ i.targets, c = next ∨ lo ≤ c ∧ c < hi
  opens : ∀ g n, i = .opening g n → opens g

theorem Inner.widen {lo' hi' next' : Nat} {i : Instr} (h : Inner next lo hi opens i) (hlo : lo' ≤ lo)
    (hhi : hi ≤ hi') (hnext : next = next' ∨ lo' ≤ next ∧ next < hi') : Inner next' lo' hi' opens i where
  not_accept := h.not_accept
  targets c hc := by
    rcases h.targets c hc with rfl | ⟨hl, hh⟩
    · exact hnext
    · exact .inr ⟨Nat.le_trans hlo hl, Nat.lt_of_lt_of_le hh hhi⟩
  opens := h.opens

/-- Code that was appended to other code, leading on to the next address. -/
structure Appended (code : Array Instr) (next : Nat) (opens : Nat → Prop) (code' : Array Instr) : Prop where
  size_le : code.size ≤ code'.size
  keeps : ∀ i < code.size, code'[i]? = code[i]?
  inner : ∀ a i, code.size ≤ a → code'[a]? = some i → Inner next code.size code'.size opens i

/-- An entry to appended code: runs from there read a word of a language in front of the next
address. -/
structure Emitted (code : Array Instr) (next : Nat) (opens : Nat → Prop) (L : Language Nat)
    (r : Nat × Array Instr) : Prop extends Appended code next opens r.2 where
  entry : r.1 = next ∨ code.size ≤ r.1 ∧ r.1 < r.2.size
  sound : ∀ full, Contains full r.2 code.size r.2.size → ∀ n w, Runs full n r.1 w →
    ∃ u ∈ L, ∃ v, u ++ v = w ∧ ∃ m ≤ n, Runs full m next v
  complete : ∀ full, Contains full r.2 code.size r.2.size → ∀ u ∈ L, ∀ n v, Runs full n next v →
    ∃ m, Runs full m r.1 (u ++ v)

theorem appended_refl (code : Array Instr) (next : Nat) (opens : Nat → Prop) :
    Appended code next opens code where
  size_le := Nat.le_refl _
  keeps _ _ := rfl
  inner _ _ ha hi := absurd (lt_of_getElem? hi) (Nat.not_lt_of_le ha)

namespace Appended

variable {code'' : Array Instr} {entry : Nat}

/-- Code that leads on to an address in other code, or to the one behind that. -/
theorem comp (h : Appended code next opens code')
    (hentry : entry = next ∨ code.size ≤ entry ∧ entry < code'.size)
    (h' : Appended code' entry opens code'') : Appended code next opens code'' where
  size_le := Nat.le_trans h.size_le h'.size_le
  keeps i hi := (h'.keeps i (Nat.lt_of_lt_of_le hi h.size_le)).trans (h.keeps i hi)
  inner a i ha hi := by
    rcases Nat.lt_or_ge a code'.size with hlt | hge
    · rw [h'.keeps a hlt] at hi
      exact (h.inner a i ha hi).widen (Nat.le_refl _) h'.size_le (.inl rfl)
    · exact (h'.inner a i hge hi).widen h.size_le (Nat.le_refl _)
        (hentry.imp_right fun hin => ⟨hin.1, Nat.lt_of_lt_of_le hin.2 h'.size_le⟩)

/-- More code behind does not change code that some full code contains. -/
theorem contains (h' : Appended code' entry opens code'') {full : Array Instr}
    (hfull : Contains full code'' lo code''.size) : Contains full code' lo code'.size := fun i hl hh =>
  (hfull i hl (Nat.lt_of_lt_of_le hh h'.size_le)).trans (h'.keeps i hh)

theorem contains_new (h : Appended code next opens code') {full : Array Instr}
    (hfull : Contains full code'' code.size hi) : Contains full code'' code'.size hi := fun i hl hh =>
  hfull i (Nat.le_trans h.size_le hl) hh

theorem getElem?_place (i : Instr) (code : Array Instr) (a : Nat) :
    (place i code).2[a]? = if a = code.size then some i else code[a]? := by
  rw [place, Array.getElem?_push]

theorem size_place (i : Instr) (code : Array Instr) : (place i code).2.size = code.size + 1 :=
  Array.size_push ..

theorem place (h : Appended code next opens code') {i : Instr}
    (hi : Inner next code.size (code'.size + 1) opens i) :
    Appended code next opens (place i code').2 where
  size_le := by
    have := h.size_le
    rw [size_place]
    omega
  keeps a ha := by
    have := h.size_le
    rw [getElem?_place, if_neg (by omega), h.keeps a ha]
  inner a j ha hj := by
    rw [size_place]
    rw [getElem?_place] at hj
    split at hj
    · rwa [← Option.some.inj hj]
    · exact (h.inner a j ha hj).widen (Nat.le_refl _) (Nat.le_succ _) (.inl rfl)

end Appended

open Appended (getElem?_place size_place)

theorem emitted_refl (code : Array Instr) (next : Nat) (opens : Nat → Prop) :
    Emitted code next opens 1 (next, code) where
  toAppended := appended_refl code next opens
  entry := .inl rfl
  sound full _ n w hrun := ⟨[], rfl, w, rfl, n, Nat.le_refl n, hrun⟩
  complete full _ u hu n v hrun := by
    obtain rfl := (Language.mem_one u).1 hu
    exact ⟨n, hrun⟩

/-- Code in front of other code. -/
theorem Emitted.comp (h : Emitted code next opens L r) (h' : Emitted r.2 r.1 opens M r') :
    Emitted code next opens (M * L) r' where
  toAppended := h.toAppended.comp h.entry h'.toAppended
  entry := by
    have := h.size_le
    have := h'.size_le
    have := h'.entry
    have := h.entry
    omega
  sound full hfull n w hrun := by
    obtain ⟨u, hu, _, rfl, m, hm, hrun⟩ := h'.sound full (h.contains_new hfull) n w hrun
    obtain ⟨u', hu', v, rfl, m', hm', hrun⟩ := h.sound full (h'.contains hfull) m _ hrun
    exact ⟨u ++ u', Language.mem_mul.2 ⟨u, hu, u', hu', rfl⟩, v, List.append_assoc .., m',
      Nat.le_trans hm' hm, hrun⟩
  complete full hfull w hw n v hrun := by
    obtain ⟨u, hu, u', hu', rfl⟩ := Language.mem_mul.1 hw
    obtain ⟨m, hrun⟩ := h.complete full (h'.contains hfull) u' hu' n v hrun
    obtain ⟨m', hrun⟩ := h'.complete full (h.contains_new hfull) u hu m _ hrun
    exact ⟨m', by rwa [List.append_assoc]⟩

/-- An instruction that another code contains behind the old part. -/
theorem getElem?_contains_place {full : Array Instr} {i : Instr} (hle : code.size ≤ code'.size)
    (hfull : Contains full (place i code').2 code.size (place i code').2.size) :
    full[code'.size]? = some i := by
  rw [hfull code'.size hle (by rw [size_place]; omega), getElem?_place, if_pos rfl]

theorem contains_of_place {full : Array Instr} {i : Instr}
    (hfull : Contains full (place i code').2 lo (place i code').2.size) : Contains full code' lo code'.size := by
  intro a hl hh
  rw [hfull a hl (by rw [size_place]; omega), getElem?_place, if_neg (Nat.ne_of_lt hh)]

/-- An instruction that goes on at once. -/
theorem emitted_pass {i : Instr} (hf : i.forks = [next]) (ht : i.targets = [next])
    (ho : ∀ g n, i = .opening g n → opens g) (hacc : i ≠ .accept) (code : Array Instr) :
    Emitted code next opens 1 (place i code) where
  toAppended := (appended_refl code next opens).place ⟨hacc, fun c hc => by
    rw [ht] at hc
    exact .inl (List.mem_singleton.1 hc), ho⟩
  entry := .inr ⟨Nat.le_refl _, by rw [size_place]; exact Nat.lt_succ_self _⟩
  sound full hfull n w hrun := by
    have hi := getElem?_contains_place (Nat.le_refl _) hfull
    cases hrun with
    | accept ha => exact absurd (Option.some.inj (hi.symm.trans ha)) hacc
    | @fork n _ c _ j hj hc hrun =>
      obtain rfl := Option.some.inj (hi.symm.trans hj)
      rw [hf] at hc
      obtain rfl := List.mem_singleton.1 hc
      exact ⟨[], rfl, w, rfl, n, Nat.le_succ n, hrun⟩
    | consume hj _ _ =>
      obtain rfl := Option.some.inj (hi.symm.trans hj)
      exact nomatch hf
  complete full hfull u hu n v hrun := by
    obtain rfl := (Language.mem_one u).1 hu
    have hi := getElem?_contains_place (Nat.le_refl _) hfull
    exact ⟨n + 1, .fork hi (hf ▸ List.mem_singleton_self next) hrun⟩

theorem emitted_symbols (ranges : List Interval) (code : Array Instr) (next : Nat) (opens : Nat → Prop) :
    Emitted code next opens {w | ∃ x, Interval.covers ranges x = true ∧ w = [x]}
      (place (.symbols ranges next) code) where
  toAppended := (appended_refl code next opens).place ⟨nofun, fun c hc => .inl (List.mem_singleton.1 hc),
    nofun⟩
  entry := .inr ⟨Nat.le_refl _, by rw [size_place]; exact Nat.lt_succ_self _⟩
  sound full hfull n w hrun := by
    have hi := getElem?_contains_place (Nat.le_refl _) hfull
    cases hrun with
    | accept ha => exact nomatch hi.symm.trans ha
    | fork hj hc _ =>
      obtain rfl := Option.some.inj (hi.symm.trans hj)
      exact nomatch hc
    | @consume n _ _ x w _ hj hx hrun =>
      obtain ⟨⟩ := Option.some.inj (hi.symm.trans hj)
      exact ⟨[x], ⟨x, hx, rfl⟩, w, rfl, n, Nat.le_succ n, hrun⟩
  complete full hfull u hu n v hrun := by
    obtain ⟨x, hx, rfl⟩ := hu
    exact ⟨n + 1, .consume (getElem?_contains_place (Nat.le_refl _) hfull) hx hrun⟩

/-- Two parts that lead on to the same address, and a fork between them. -/
theorem Emitted.split (h : Emitted code next opens L r) (h' : Emitted r.2 next opens M r') :
    Emitted code next opens (M + L) (place (.split r'.1 r.1) r'.2) where
  toAppended := (h.toAppended.comp (.inl rfl) h'.toAppended).place ⟨nofun, fun c hc => by
    have := h.size_le
    have := h'.size_le
    have := h.entry
    have := h'.entry
    rcases List.mem_cons.1 hc with rfl | hc
    · omega
    · rw [List.mem_singleton.1 hc]
      omega, nofun⟩
  entry := .inr ⟨Nat.le_trans h.size_le h'.size_le, by rw [size_place]; exact Nat.lt_succ_self _⟩
  sound full hfull n w hrun := by
    have hi := getElem?_contains_place (Nat.le_trans h.size_le h'.size_le) hfull
    have hfull' := contains_of_place hfull
    cases hrun with
    | accept ha => exact nomatch hi.symm.trans ha
    | @fork n _ c _ j hj hc hrun =>
      obtain rfl := Option.some.inj (hi.symm.trans hj)
      rcases List.mem_cons.1 hc with rfl | hc
      · obtain ⟨u, hu, v, hv, m, hm, hrun⟩ := h'.sound full (h.contains_new hfull') n w hrun
        exact ⟨u, .inl hu, v, hv, m, Nat.le_succ_of_le hm, hrun⟩
      · rw [List.mem_singleton.1 hc] at hrun
        obtain ⟨u, hu, v, hv, m, hm, hrun⟩ := h.sound full (h'.contains hfull') n w hrun
        exact ⟨u, .inr hu, v, hv, m, Nat.le_succ_of_le hm, hrun⟩
    | consume hj _ _ => exact nomatch hi.symm.trans hj
  complete full hfull u hu n v hrun := by
    have hi := getElem?_contains_place (Nat.le_trans h.size_le h'.size_le) hfull
    have hfull' := contains_of_place hfull
    rcases hu with hu | hu
    · obtain ⟨m, hrun⟩ := h'.complete full (h.contains_new hfull') u hu n v hrun
      exact ⟨m + 1, .fork hi List.mem_cons_self hrun⟩
    · obtain ⟨m, hrun⟩ := h.complete full (h'.contains hfull') u hu n v hrun
      exact ⟨m + 1, .fork hi (List.mem_cons_of_mem _ (List.mem_singleton_self _)) hrun⟩

theorem mem_forks_loopSplit {policy : LoopPolicy} {again c : Nat} :
    c ∈ (loopSplit policy again next).forks ↔ c = again ∨ c = next := by
  cases policy with
  | plain => simp [loopSplit, Instr.forks]
  | extending => simp [loopSplit, Instr.forks]
  | limiting => simp [loopSplit, Instr.forks, or_comm]

theorem inner_loopSplit {policy : LoopPolicy} {again : Nat} (ha : again = next ∨ lo ≤ again ∧ again < hi) :
    Inner next lo hi opens (loopSplit policy again next) := by
  have htargets : (loopSplit policy again next).targets = (loopSplit policy again next).forks := by
    cases policy <;> rfl
  refine ⟨by cases policy <;> exact nofun, fun c hc => ?_, by cases policy <;> exact nofun⟩
  rw [htargets, mem_forks_loopSplit] at hc
  rcases hc with rfl | rfl
  · exact ha
  · exact .inl rfl

theorem getElem?_patch {a : Nat} (h : a < code.size) (i : Instr) (b : Nat) :
    (code.setIfInBounds a i)[b]? = if b = a then some i else code[b]? := by
  rw [Array.getElem?_setIfInBounds]
  split
  · subst_vars
    simp
  · rw [if_neg (by omega)]

/-- The patched instruction and the code behind it. -/
theorem contains_of_patch {full : Array Instr} {a : Nat} {i : Instr} (h : a < code.size)
    (hfull : Contains full (code.setIfInBounds a i) a (code.setIfInBounds a i).size) :
    full[a]? = some i ∧ Contains full code (a + 1) code.size := by
  rw [Array.size_setIfInBounds] at hfull
  refine ⟨by rw [hfull a (Nat.le_refl a) h, getElem?_patch h, if_pos rfl], fun b hl hh => ?_⟩
  rw [hfull b (Nat.le_of_succ_le hl) hh, getElem?_patch h, if_neg (Nat.ne_of_gt hl)]

section Rounds

variable {full : Array Instr} {policy : LoopPolicy} {a again n : Nat} {u v : List Nat}
  (hfork : full[a]? = some (loopSplit policy again next))
include hfork

/-- A run from the fork of a loop reads some rounds. Every round takes a step at the fork, so the runs of the
rounds get shorter. -/
theorem rounds_of_runs (hround : ∀ n w, Runs full n again w → ∃ u ∈ L, ∃ v, u ++ v = w ∧ ∃ m ≤ n, Runs full m a v)
    (n : Nat) (w : List Nat) (hrun : Runs full n a w) : ∃ u ∈ L∗, ∃ v, u ++ v = w ∧ ∃ m ≤ n, Runs full m next v := by
  induction n using Nat.strongRecOn generalizing w with
  | ind n ih =>
    cases hrun with
    | accept ha =>
      have hi := Option.some.inj (hfork.symm.trans ha)
      cases policy <;> exact nomatch hi
    | @fork n _ c _ j hj hc hrun =>
      obtain rfl := Option.some.inj (hfork.symm.trans hj)
      rcases mem_forks_loopSplit.1 hc with rfl | rfl
      · obtain ⟨u, hu, _, rfl, m, hm, hrun⟩ := hround n w hrun
        obtain ⟨u', hu', v, rfl, m', hm', hrun⟩ := ih m (Nat.lt_succ_of_le hm) _ hrun
        refine ⟨u ++ u', ?_, v, List.append_assoc .., m', by omega, hrun⟩
        rw [← Language.one_add_self_mul_kstar_eq_kstar]
        exact .inr (Language.mem_mul.2 ⟨u, hu, u', hu', rfl⟩)
      · exact ⟨[], Language.nil_mem_kstar L, w, rfl, n, Nat.le_succ n, hrun⟩
    | consume hj _ _ =>
      have hi := Option.some.inj (hfork.symm.trans hj)
      cases policy <;> exact nomatch hi

theorem runs_of_rounds (hround : ∀ u ∈ L, ∀ n v, Runs full n a v → ∃ m, Runs full m again (u ++ v)) (hu : u ∈ L∗)
    (hrun : Runs full n next v) : ∃ m, Runs full m a (u ++ v) := by
  obtain ⟨words, rfl, hwords⟩ := Language.mem_kstar.1 hu
  induction words with
  | nil => exact ⟨n + 1, .fork hfork (mem_forks_loopSplit.2 (.inr rfl)) hrun⟩
  | cons word words ih =>
    obtain ⟨hword, hwords⟩ := List.forall_mem_cons.1 hwords
    obtain ⟨m, hrun⟩ := ih hwords (Language.join_mem_kstar hwords)
    obtain ⟨m', hrun⟩ := hround word hword m _ hrun
    rw [List.flatten_cons, List.append_assoc]
    exact ⟨m' + 1, .fork hfork (mem_forks_loopSplit.2 (.inl rfl)) hrun⟩

end Rounds

/-- The fork of a loop is placed in front of the body and patched behind it. -/
theorem Emitted.loop {policy : LoopPolicy} (h : Emitted (place .accept code).2 code.size opens L r) :
    Emitted code next opens L∗ (code.size, r.2.setIfInBounds code.size (loopSplit policy r.1 next)) := by
  have hlt : code.size < r.2.size := by
    have := h.size_le
    rw [size_place] at this
    omega
  have hsize : (r.2.setIfInBounds code.size (loopSplit policy r.1 next)).size = r.2.size :=
    Array.size_setIfInBounds
  have hget := getElem?_patch hlt (loopSplit policy r.1 next)
  have hentry : code.size ≤ r.1 ∧ r.1 < r.2.size := by
    have := h.entry
    rw [size_place] at this
    omega
  have hbody : ∀ {full}, Contains full (r.2.setIfInBounds code.size (loopSplit policy r.1 next)) code.size
      (r.2.setIfInBounds code.size (loopSplit policy r.1 next)).size →
        full[code.size]? = some (loopSplit policy r.1 next) ∧
          Contains full r.2 (place .accept code).2.size r.2.size := by
    intro full hfull
    rw [size_place]
    exact contains_of_patch hlt hfull
  refine ⟨⟨by rw [hsize]; omega, fun a ha => ?_, fun a i ha hi => ?_⟩, .inr ⟨Nat.le_refl _, by rwa [hsize]⟩,
    fun full hfull n => ?_, fun full hfull u hu n v hrun => ?_⟩
  · rw [hget, if_neg (by omega), h.keeps a (by rw [size_place]; omega), getElem?_place, if_neg (by omega)]
  · rw [hsize]
    rw [hget] at hi
    split at hi
    · rw [← Option.some.inj hi]
      exact inner_loopSplit (.inr hentry)
    · exact (h.inner a i (by rw [size_place]; omega) hi).widen (by rw [size_place]; omega) (Nat.le_refl _)
        (.inr ⟨Nat.le_refl _, hlt⟩)
  · obtain ⟨hfork, hrest⟩ := hbody hfull
    exact rounds_of_runs hfork (h.sound full hrest) n
  · obtain ⟨hfork, hrest⟩ := hbody hfull
    exact runs_of_rounds hfork (h.complete full hrest) hu hrun

/-- Copies of a part in front of each other; in front of some of them the copies may end. -/
def emitCopies (body : Nat → Array Instr → Nat × Array Instr) (mayEnd : Nat → Bool) (next : Nat) :
    List Nat → Array Instr → Nat × Array Instr := fun ks code =>
  ks.foldr (fun k (r : Nat × Array Instr) =>
    let again := body r.1 r.2
    if mayEnd k then place (.split again.1 next) again.2 else again) (next, code)

theorem emitted_copies {body : Nat → Array Instr → Nat × Array Instr}
    (h : ∀ next code, Emitted code next opens L (body next code)) (mayEnd : Nat → Bool) (next : Nat)
    (ks : List Nat) (code : Array Instr) :
    Emitted code next opens (Behaviour.copiesLang L mayEnd ks) (emitCopies body mayEnd next ks code) := by
  induction ks with
  | nil => exact emitted_refl code next opens
  | cons k ks ih =>
    have hagain := ih.comp (h _ _)
    simp only [emitCopies, List.foldr_cons, Behaviour.copiesLang] at hagain ⊢
    split
    · exact (emitted_refl code next opens).split hagain
    · rwa [add_zero]

/-- The groups that a part of a pattern opens, by their places. -/
def Opens (layout : Layout) (labels : List Label) (g : Nat) : Prop :=
  ∃ label ∈ labels, layout.labels.idxOf? label = some g

theorem emitted_mono {opens' : Nat → Prop} (h : Emitted code next opens L r) (ho : ∀ g, opens g → opens' g) :
    Emitted code next opens' L r :=
  { h with inner := fun a i ha hi => ⟨(h.inner a i ha hi).not_accept, (h.inner a i ha hi).targets,
      fun g n hg => ho g ((h.inner a i ha hi).opens g n hg)⟩ }

variable (layout : Layout)

mutual

/-- The code of a pattern reads the words that it stands for if no loop is exclusive. -/
theorem emitted_emit : ∀ (p : Pattern) (next : Nat) (code : Array Instr),
    Emitted code next (Opens layout p.labels) p.lax (emit layout p next code)
  | .symbols ranges, next, code => emitted_symbols ranges code next _
  | .sequence items, next, code => emitted_emitSequence items next code
  | .select branches, next, code => emitted_emitSelect branches next code
  | .counted body counts, next, code =>
    emitted_copies (emitted_emit body) (Pattern.hasCount counts) next (List.range (counts.getLastD 0)) code
  | .loop body min policy, next, code => by
    have hloop := @Emitted.loop code next _ _ _ policy (emitted_emit body code.size (place .accept code).2)
    have hcopies := hloop.comp (emitted_copies (emitted_emit body) (fun _ => false) _ (List.range min) _)
    rw [Behaviour.copiesLang_false] at hcopies
    exact hcopies
  | .optional body, next, code => by
    rw [emit, Pattern.lax]
    exact (emitted_refl code next _).split (emitted_emit body next code)
  | .group label body, next, code => by
    have hbody : ∀ g, Opens layout body.labels g → Opens layout (Pattern.group label body).labels g :=
      fun g ⟨l, hl, hg⟩ => ⟨l, List.mem_cons_of_mem _ hl, hg⟩
    rw [emit, Pattern.lax]
    cases hg : layout.labels.idxOf? label with
    | none => exact emitted_mono (emitted_emit body next code) hbody
    | some g =>
      have hopens : Opens layout (Pattern.group label body).labels g := ⟨label, List.mem_cons_self, hg⟩
      have hclose := @emitted_pass next (Opens layout (Pattern.group label body).labels)
        (.closing g next) rfl rfl nofun nofun code
      have hinner := hclose.comp (emitted_mono (emitted_emit body _ _) hbody)
      have hopen := hinner.comp (emitted_pass (i := .opening g _) rfl rfl (fun g' n hi => by
        obtain ⟨rfl, -⟩ := Instr.opening.inj hi
        exact hopens) nofun _)
      rw [one_mul, mul_one] at hopen
      exact hopen

theorem emitted_emitSequence : ∀ (items : List Pattern) (next : Nat) (code : Array Instr),
    Emitted code next (Opens layout (Pattern.allLabels items)) (Pattern.laxInOrder items)
      (emitSequence layout items next code)
  | [], next, code => emitted_refl code next _
  | item :: rest, next, code =>
    (emitted_mono (emitted_emitSequence rest next code) fun _ ⟨l, hl, hg⟩ =>
      ⟨l, List.mem_append_right _ hl, hg⟩).comp
        (emitted_mono (emitted_emit item _ _) fun _ ⟨l, hl, hg⟩ => ⟨l, List.mem_append_left _ hl, hg⟩)

theorem emitted_emitSelect : ∀ (branches : List Pattern) (next : Nat) (code : Array Instr),
    Emitted code next (Opens layout (Pattern.allLabels branches)) (Pattern.laxOfAny branches)
      (emitSelect layout branches next code)
  | [], next, code => by
    have hempty : (0 : Language Nat) = {w | ∃ x, Interval.covers [] x = true ∧ w = [x]} := by
      ext w
      exact ⟨fun hw => absurd hw (Language.notMem_zero w), fun ⟨x, hx, _⟩ => absurd hx Bool.false_ne_true⟩
    rw [Pattern.laxOfAny, hempty]
    exact emitted_symbols [] code next _
  | [branch], next, code => by
    rw [Pattern.laxOfAny, Pattern.laxOfAny, add_zero, Pattern.allLabels, Pattern.allLabels, List.append_nil]
    exact emitted_emit branch next code
  | branch :: other :: rest, next, code =>
    (emitted_mono (emitted_emitSelect (other :: rest) next code) fun _ ⟨l, hl, hg⟩ =>
      ⟨l, List.mem_append_right _ hl, hg⟩).split
        (emitted_mono (emitted_emit branch _ _) fun _ ⟨l, hl, hg⟩ => ⟨l, List.mem_append_left _ hl, hg⟩)

end

end Program

end Polymatch
