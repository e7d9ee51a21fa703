import Polymatch.Proofs.Replay.Runs

/-! # Priority of branches

Branches of a program do not share addresses but the last one, where they accept.
The threads of an earlier branch stand in front of those of a later one, so the
groups of a replay are those of the first branch that accepts by itself.
-/

namespace Polymatch

/-- All addresses that an instruction names. -/
def Instr.targets : Instr → List Nat
  | symbols _ next => [next]
  | i => i.forks

namespace Program

variable {p : Program} {pos : Nat} {w : List Nat} {first second threads : List Thread} {t t' : Thread}
  {A B : Nat → Prop}

/-- Runs from a region stay in it, until they accept at the address 0. -/
structure Region (p : Program) (A : Nat → Prop) : Prop where
  inside : ∀ a, A a → ¬ p.Outside a
  targets : ∀ a, A a → ∀ c ∈ (p.code.getD a default).targets, A c ∨ c = 0
  not_accept : ∀ a, A a → p.code.getD a default ≠ .accept

/-- A thread of a region. -/
def Stays (A : Nat → Prop) (t : Thread) : Prop := A t.address ∨ t.address = 0

theorem mem_targets_of_forks {i : Instr} {c : Nat} (h : c ∈ i.forks) : c ∈ i.targets := by
  cases i with
  | symbols ranges next => exact nomatch h
  | accept => exact h
  | split first second => exact h
  | opening group next => exact h
  | closing group next => exact h

namespace Region

theorem forks (hA : p.Region A) (h0 : p.code[0]? = some .accept) (a : Nat) (ha : A a ∨ a = 0) :
    ∀ c ∈ (p.code.getD a default).forks, A c ∨ c = 0 := by
  intro c hc
  rcases ha with ha | rfl
  · exact hA.targets a ha c (mem_targets_of_forks hc)
  · rw [getD_code h0] at hc
    exact nomatch hc

theorem fork (hA : p.Region A) (h0 : p.code[0]? = some .accept) (ht : Stays A t) :
    ∀ t' ∈ p.fork pos t, Stays A t' := by
  intro t' ht'
  refine hA.forks h0 _ ht _ ?_
  rw [← map_fork p pos]
  exact List.mem_map_of_mem ht'

theorem consume (hA : p.Region A) (h0 : p.code[0]? = some .accept) (ht : Stays A t) {x : Nat}
    (h : p.consume? x t = some t') : Stays A t' := by
  obtain ⟨ranges, next, hi, -, rfl⟩ := consume?_eq_some.1 h
  rcases ht with ht | ht
  · refine hA.targets _ ht next ?_
    rw [hi]
    exact List.mem_singleton_self next
  · rw [ht, getD_code h0] at hi
    exact nomatch hi

theorem closure (hA : p.Region A) (h0 : p.code[0]? = some .accept) (h : ∀ t ∈ threads, Stays A t) :
    ∀ t ∈ p.closure pos threads, Stays A t :=
  forall_closure (fun _ ht => hA.fork h0 ht) h

theorem advance (hA : p.Region A) (h0 : p.code[0]? = some .accept) (h : ∀ t ∈ threads, Stays A t)
    (x : Nat) : ∀ t ∈ p.advance pos x threads, Stays A t := by
  rw [advance_eq]
  refine hA.closure h0 fun t' ht' => ?_
  obtain ⟨t, ht, hc⟩ := List.mem_filterMap.1 ht'
  exact hA.consume h0 (h t ht) hc

end Region

/-- Some thread accepts. -/
def finished (threads : List Thread) : Bool := threads.any (·.address == 0)

/-- The threads of a later branch, behind others; only the first thread that accepts is kept. -/
def behind (first second : List Thread) : List Thread :=
  second.filter fun t => !(t.address == 0 && finished first)

/-- Later threads of another region do not change where earlier ones come to rest. -/
theorem closure_append (hA : p.Region A) (hB : p.Region B) (h0 : p.code[0]? = some .accept)
    (hAB : ∀ a, A a → ¬ B a) (h1 : ∀ t ∈ first, Stays A t) (h2 : ∀ t ∈ second, Stays B t) :
    p.closure pos (first ++ second) =
      p.closure pos first ++ behind (p.closure pos first) (p.closure pos second) := by
  obtain ⟨_, hboth⟩ := p.spreads_closure pos (first ++ second)
  obtain ⟨out, seen, out', hfirst, hsecond, hout⟩ := hboth.split
  obtain ⟨_, hfirst'⟩ := p.spreads_closure pos first
  obtain ⟨rfl, -⟩ := hfirst.unique hfirst'
  have hzero : ¬ p.Outside 0 := Nat.not_le_of_lt (lt_of_getElem? h0)
  have hseen : ∀ a, B a ∨ a = 0 → (seen a ↔ p.Outside a ∨
      (a == 0 && finished (p.closure pos first)) = true) := by
    have hwithin := hfirst.within (hA.forks h0) h1
    intro a ha
    by_cases ha0 : a = 0
    · subst ha0
      simp only [beq_self_eq_true, Bool.true_and, hzero, false_or, finished, List.any_eq_true, beq_iff_eq]
      constructor
      · intro hs
        rcases hfirst.closed.2.2 0 hs with hout | ⟨-, hrest⟩
        · exact absurd hout hzero
        · exact hrest (by rw [getD_code h0]; rfl)
      · rintro ⟨t, ht, hta⟩
        exact hta ▸ hfirst.seen_of_mem_out t ht
    · have hb : B a := ha.resolve_right ha0
      simp only [ha0, beq_iff_eq, Bool.and_eq_true, false_and, or_false]
      constructor
      · intro hs
        rcases hwithin a hs with hout | haA | rfl
        · exact hout
        · exact absurd hb (hAB a haA)
        · exact absurd rfl ha0
      · exact hfirst.closed.1 a
  obtain ⟨_, hsecond'⟩ := p.spreads_closure pos second
  have hextra : ∀ a, (a == 0 && finished (p.closure pos first)) = true →
      (p.code.getD a default).forks = [] := by
    intro a ha
    rw [Bool.and_eq_true, beq_iff_eq] at ha
    rw [ha.1, getD_code h0]
    rfl
  obtain ⟨_, hframe⟩ := hsecond'.frame (hB.forks h0) hextra h2 hseen
  rw [hout, (hsecond.unique hframe).1]
  rfl

theorem filterMap_behind (h0 : p.code[0]? = some .accept) (x : Nat) :
    (behind first second).filterMap (p.consume? x) = second.filterMap (p.consume? x) := by
  rw [behind, List.filterMap_filter]
  congr 1
  funext t
  split
  · rfl
  · rename_i h
    have ht : t.address = 0 := by
      rw [Bool.not_eq_true, Bool.not_eq_false', Bool.and_eq_true, beq_iff_eq] at h
      exact h.1
    rw [consume?, ht, getD_code h0]

theorem accepts_iff (hA : p.Region A) (h0 : p.code[0]? = some .accept) (ht : Stays A t) :
    p.code.getD t.address default = .accept ↔ t.address = 0 := by
  constructor
  · intro hi
    exact ht.resolve_left fun ha => hA.not_accept _ ha hi
  · intro h
    rw [h, getD_code h0]

/-- The groups of two branches are those of the first one, or else those of the second one. -/
theorem replayFrom_append (hA : p.Region A) (hB : p.Region B) (h0 : p.code[0]? = some .accept)
    (hAB : ∀ a, A a → ¬ B a) (h1 : ∀ t ∈ first, Stays A t) (h2 : ∀ t ∈ second, Stays B t) :
    p.replayFrom pos w (first ++ behind first second) =
      (p.replayFrom pos w first).or (p.replayFrom pos w second) := by
  induction w generalizing pos first second with
  | nil =>
    simp only [replayFrom, List.find?_append]
    cases hfind : first.find? fun t => p.code.getD t.address default == .accept with
    | some t => rfl
    | none =>
      have hnot : finished first = false := by
        rw [finished, List.any_eq_false]
        intro t ht hta
        rw [List.find?_eq_none] at hfind
        rw [beq_iff_eq] at hta
        exact hfind t ht (beq_iff_eq.2 ((accepts_iff hA h0 (h1 t ht)).2 hta))
      have hbehind : behind first second = second := by
        simp [behind, hnot]
      rw [hbehind]
      rfl
  | cons x w ih =>
    rw [replayFrom_cons, replayFrom_cons, replayFrom_cons,
      ← ih (hA.advance h0 h1 x) (hB.advance h0 h2 x)]
    congr 1
    simp only [advance_eq, List.filterMap_append, filterMap_behind h0]
    refine closure_append hA hB h0 hAB (fun t' ht' => ?_) fun t' ht' => ?_
    · obtain ⟨t, ht, hc⟩ := List.mem_filterMap.1 ht'
      exact hA.consume h0 (h1 t ht) hc
    · obtain ⟨t, ht, hc⟩ := List.mem_filterMap.1 ht'
      exact hB.consume h0 (h2 t ht) hc

/-- The groups that a replay from an address finds. -/
def replayAt (p : Program) (pos : Nat) (groups : Groups) (w : List Nat) (a : Nat) : Option Groups :=
  p.replayFrom pos w (p.closure pos [⟨a, groups⟩])

variable {groups found : Groups} {a b e : Nat} {opens : Nat → Prop}

theorem isSome_replayAt : (p.replayAt pos groups w a).isSome = true ↔ ∃ n, Runs p.code n a w := by
  rw [replayAt, isSome_replayFrom resting_closure, exists_runs_closure]
  simp only [List.mem_singleton, exists_eq_left]

theorem closure_split (hA : p.Region A) (hB : p.Region B) (h0 : p.code[0]? = some .accept)
    (he : p.code[e]? = some (.split a b)) (heA : ¬ A e) (heB : ¬ B e) (ha : A a ∨ a = 0) (hb : B b ∨ b = 0) :
    p.closure pos [⟨e, groups⟩] = p.closure pos [⟨a, groups⟩, ⟨b, groups⟩] := by
  have hinside : ¬ p.Outside e := Nat.not_le_of_lt (lt_of_getElem? he)
  have hfork : p.fork pos ⟨e, groups⟩ = [⟨a, groups⟩, ⟨b, groups⟩] := by
    rw [fork, getD_code he]
  have hrest : p.rest ⟨e, groups⟩ = [] := by
    rw [rest, getD_code he]
  have he0 : e ≠ 0 := by
    rintro rfl
    cases h0.symm.trans he
  -- neither branch leads back to the fork, so it does not matter that it was seen
  have hregion : ∀ c, (A c ∨ c = 0) ∨ B c ∨ c = 0 → ∀ d ∈ (p.code.getD c default).forks,
      (A d ∨ d = 0) ∨ B d ∨ d = 0 := by
    rintro c (hc | hc) d hd
    · exact .inl (hA.forks h0 c hc d hd)
    · exact .inr (hB.forks h0 c hc d hd)
  have hseen : ∀ c, (A c ∨ c = 0) ∨ B c ∨ c = 0 →
      (c = e ∨ p.Outside c ↔ p.Outside c ∨ (fun _ => false : Nat → Bool) c = true) := by
    intro c hc
    have hce : c ≠ e := by
      rintro rfl
      rcases hc with (h | h) | h | h
      · exact heA h
      · exact he0 h
      · exact heB h
      · exact he0 h
    simp [hce]
  obtain ⟨_, hboth⟩ := p.spreads_closure pos [⟨a, groups⟩, ⟨b, groups⟩]
  have hpending : ∀ t ∈ [(⟨a, groups⟩ : Thread), ⟨b, groups⟩],
      (A t.address ∨ t.address = 0) ∨ B t.address ∨ t.address = 0 := by
    rintro t (_ | ⟨_, _ | ⟨_, ht⟩⟩)
    · exact .inl ha
    · exact .inr hb
    · cases ht
  obtain ⟨_, hframe⟩ := hboth.frame hregion (fun _ h => absurd h Bool.false_ne_true) hpending hseen
  obtain ⟨_, hone⟩ := p.spreads_closure pos [⟨e, groups⟩]
  rw [← hfork, ← List.append_nil (p.fork pos _)] at hframe
  rw [(hone.unique (.enter hinside hframe)).1, hrest]
  simp [hfork]

/-- A replay prefers the first branch of a fork. -/
theorem replayAt_split (hA : p.Region A) (hB : p.Region B) (h0 : p.code[0]? = some .accept)
    (hAB : ∀ a, A a → ¬ B a) (he : p.code[e]? = some (.split a b)) (heA : ¬ A e) (heB : ¬ B e)
    (ha : A a ∨ a = 0) (hb : B b ∨ b = 0) :
    p.replayAt pos groups w e = (p.replayAt pos groups w a).or (p.replayAt pos groups w b) := by
  have h1 : ∀ t ∈ [(⟨a, groups⟩ : Thread)], Stays A t := fun t ht => by
    rw [List.mem_singleton.1 ht]
    exact ha
  have h2 : ∀ t ∈ [(⟨b, groups⟩ : Thread)], Stays B t := fun t ht => by
    rw [List.mem_singleton.1 ht]
    exact hb
  rw [replayAt, closure_split hA hB h0 he heA heB ha hb, ← List.singleton_append,
    closure_append hA hB h0 hAB h1 h2,
    replayFrom_append hA hB h0 hAB (hA.closure h0 h1) (hB.closure h0 h2)]
  rfl

/-- A property that forking and consuming preserve holds of the thread that decides a replay. -/
theorem exists_of_replayFrom {holds : Thread → Prop}
    (hfork : ∀ pos t, holds t → ∀ t' ∈ p.fork pos t, holds t')
    (hconsume : ∀ x t t', holds t → p.consume? x t = some t' → holds t')
    (h : ∀ t ∈ threads, holds t) (hf : p.replayFrom pos w threads = some found) :
    ∃ t, holds t ∧ t.groups = found := by
  induction w generalizing pos threads with
  | nil =>
    rw [replayFrom, Option.map_eq_some_iff] at hf
    obtain ⟨t, ht, rfl⟩ := hf
    exact ⟨t, h t (List.mem_of_find?_eq_some ht), rfl⟩
  | cons x w ih =>
    rw [replayFrom_cons] at hf
    refine ih ?_ hf
    rw [advance_eq]
    refine forall_closure (hfork (pos + 1)) fun t' ht' => ?_
    obtain ⟨t, ht, hc⟩ := List.mem_filterMap.1 ht'
    exact hconsume x t t' (h t ht) hc

/-- Only some groups have occurrences. -/
def Within (opens : Nat → Prop) (groups : Groups) : Prop := ∀ g, groups.getD g [] ≠ [] → opens g

theorem Within.modify (h : Within opens groups) {g : Nat} {f : List Span → List Span}
    (hg : opens g ∨ f [] = []) : Within opens (groups.modify g f) := by
  intro k hk
  rw [List.getD_eq_getElem?_getD, List.getElem?_modify] at hk
  have hgk := h k
  rw [List.getD_eq_getElem?_getD] at hgk
  cases hl : groups[k]? with
  | none => simp [hl] at hk
  | some l =>
    rw [hl] at hk hgk
    by_cases heq : g = k
    · subst heq
      rcases hg with hg | hf
      · exact hg
      · refine hgk fun hnil => hk ?_
        simp only [Option.getD_some] at hnil
        simp [hnil, hf]
    · exact hgk (by simpa [heq] using hk)

theorem Within.fork (h : Within opens t.groups)
    (hopens : ∀ g n, p.code.getD t.address default = .opening g n → opens g) :
    ∀ t' ∈ p.fork pos t, Within opens t'.groups := by
  intro t' ht'
  rw [Program.fork] at ht'
  cases hi : p.code.getD t.address default with
  | symbols ranges next =>
    rw [hi] at ht'
    cases ht'
  | accept =>
    rw [hi] at ht'
    cases ht'
  | split first second =>
    rw [hi] at ht'
    rcases ht' with _ | ⟨_, _ | ⟨_, ht'⟩⟩
    · exact h
    · exact h
    · cases ht'
  | opening g n =>
    rw [hi] at ht'
    rw [List.mem_singleton.1 ht']
    exact h.modify (.inl (hopens g n hi))
  | closing g n =>
    rw [hi] at ht'
    rw [List.mem_singleton.1 ht']
    exact h.modify (.inr rfl)

/-- A replay from a region finds occurrences of the groups that are opened there. -/
theorem within_of_replayAt (hA : p.Region A) (h0 : p.code[0]? = some .accept)
    (hopens : ∀ a, A a → ∀ g n, p.code.getD a default = .opening g n → opens g) (ha : A a ∨ a = 0)
    (hg : Within opens groups) (hf : p.replayAt pos groups w a = some found) : Within opens found := by
  have hstart : ∀ t ∈ [(⟨a, groups⟩ : Thread)], Stays A t ∧ Within opens t.groups := fun t ht => by
    rw [List.mem_singleton.1 ht]
    exact ⟨ha, hg⟩
  have hfork : ∀ pos t, Stays A t ∧ Within opens t.groups → ∀ t' ∈ p.fork pos t,
      Stays A t' ∧ Within opens t'.groups := by
    rintro pos t ⟨ht, hw⟩ t' ht'
    refine ⟨hA.fork h0 ht t' ht', hw.fork (fun g n hi => ?_) t' ht'⟩
    rcases ht with ht | ht
    · exact hopens _ ht g n hi
    · rw [ht, getD_code h0] at hi
      exact nomatch hi
  have hconsume : ∀ x t t', Stays A t ∧ Within opens t.groups → p.consume? x t = some t' →
      Stays A t' ∧ Within opens t'.groups := by
    rintro x t t' ⟨ht, hw⟩ hc
    refine ⟨hA.consume h0 ht hc, ?_⟩
    obtain ⟨_, _, -, -, rfl⟩ := consume?_eq_some.1 hc
    exact hw
  obtain ⟨t, ⟨-, ht⟩, rfl⟩ := exists_of_replayFrom hfork hconsume (forall_closure (hfork pos) hstart) hf
  exact ht

end Program

end Polymatch
