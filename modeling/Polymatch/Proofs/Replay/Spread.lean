import Polymatch.Replay

/-! # Spreading threads

From an address, a thread forks until it rests at instructions that accept or
consume. Threads spread depth first, and an address that was seen before is not
entered again, so the threads come to rest in order of priority. What is entered
does not depend on addresses that the threads cannot reach.
-/

namespace Polymatch

/-- The addresses where an instruction goes on without consuming. -/
def Instr.forks : Instr → List Nat
  | split first second => [first, second]
  | opening _ next => [next]
  | closing _ next => [next]
  | symbols _ _ => []
  | accept => []

namespace Program

variable {p : Program} {pos : Nat} {s : Step} {pending out threads : List Thread}

/-- The threads that a thread leaves behind where it does not rest. -/
def fork (p : Program) (pos : Nat) (t : Thread) : List Thread :=
  match p.code.getD t.address default with
  | .split first second => [{ t with address := first }, { t with address := second }]
  | .opening group next => [⟨next, openGroup t.groups group pos⟩]
  | .closing group next => [⟨next, closeGroup t.groups group pos⟩]
  | .symbols _ _ => []
  | .accept => []

/-- The thread itself where it rests. -/
def rest (p : Program) (t : Thread) : List Thread :=
  match p.code.getD t.address default with
  | .symbols _ _ => [t]
  | .accept => [t]
  | _ => []

/-- Pending threads spread, past the addresses seen so far; the threads that come to rest, in order,
and all addresses seen. -/
inductive Spreads (p : Program) (pos : Nat) :
    (Nat → Prop) → List Thread → List Thread → (Nat → Prop) → Prop
  | done {seen : Nat → Prop} : Spreads p pos seen [] [] seen
  | skip {seen seen' : Nat → Prop} {t : Thread} {pending out : List Thread} : seen t.address →
      Spreads p pos seen pending out seen' → Spreads p pos seen (t :: pending) out seen'
  | enter {seen seen' : Nat → Prop} {t : Thread} {pending out : List Thread} : ¬ seen t.address →
      Spreads p pos (fun a => a = t.address ∨ seen a) (p.fork pos t ++ pending) out seen' →
      Spreads p pos seen (t :: pending) (p.rest t ++ out) seen'

theorem map_fork (p : Program) (pos : Nat) (t : Thread) :
    (p.fork pos t).map (·.address) = (p.code.getD t.address default).forks := by
  rw [fork]
  cases p.code.getD t.address default <;> rfl

theorem rest_of_forks {t : Thread} (h : (p.code.getD t.address default).forks = []) : p.rest t = [t] := by
  rw [rest]
  cases hi : p.code.getD t.address default with
  | accept => rfl
  | symbols ranges next => rfl
  | split first second =>
    rw [hi] at h
    exact nomatch h
  | opening group next =>
    rw [hi] at h
    exact nomatch h
  | closing group next =>
    rw [hi] at h
    exact nomatch h

theorem mem_rest {t t' : Thread} : t' ∈ p.rest t ↔ t' = t ∧ p.rest t = [t] := by
  rw [rest]
  cases p.code.getD t.address default <;> simp

namespace Step

/-- An address does not need to be entered: it was seen, or there is no such address. -/
def Seen (s : Step) (a : Nat) : Prop := s.seen.getD a true = true

def unseen (s : Step) : Nat := s.seen.count false

/-- Mark an address as seen, and add the threads that rest there. -/
def mark (s : Step) (a : Nat) (resting : List Thread) : Step :=
  ⟨s.seen.setIfInBounds a true, resting ++ s.threads⟩

theorem getElem?_of_not_seen {a : Nat} (h : ¬ s.Seen a) : s.seen[a]? = some false := by
  rw [Seen, Array.getD_eq_getD_getElem?] at h
  cases hs : s.seen[a]? with
  | none => simp [hs] at h
  | some b => simpa [hs] using h

theorem seen_mark {a : Nat} (h : ¬ s.Seen a) (resting : List Thread) :
    (s.mark a resting).Seen = fun b => b = a ∨ s.Seen b := by
  funext b
  have hlt := (Array.getElem?_eq_some_iff.1 (getElem?_of_not_seen h)).1
  simp only [Seen, mark, Array.getD_eq_getD_getElem?, Array.getElem?_setIfInBounds, hlt, if_true, eq_iff_iff]
  by_cases hab : a = b
  · simp [hab]
  · simp [hab, Ne.symm hab]

theorem unseen_mark {a : Nat} (h : ¬ s.Seen a) (resting : List Thread) :
    (s.mark a resting).unseen + 1 = s.unseen := by
  obtain ⟨hlt, hfalse⟩ := Array.getElem?_eq_some_iff.1 (getElem?_of_not_seen h)
  have hpos : 0 < s.seen.count false := Array.count_pos_iff.2 (hfalse ▸ Array.getElem_mem hlt)
  rw [unseen, mark, Array.setIfInBounds_def, dif_pos hlt, Array.count_set, hfalse]
  exact Nat.sub_add_cancel hpos

end Step

theorem spread_seen {fuel : Nat} {t : Thread} (h : s.Seen t.address) :
    p.spread pos (fuel + 1) (t :: pending) s = p.spread pos fuel pending s := by
  rw [spread]
  exact if_pos h

theorem spread_unseen {fuel : Nat} {t : Thread} (h : ¬ s.Seen t.address) :
    p.spread pos (fuel + 1) (t :: pending) s =
      p.spread pos fuel (p.fork pos t ++ pending) (s.mark t.address (p.rest t)) := by
  rw [spread]
  refine (if_neg h).trans ?_
  rw [fork, rest]
  cases p.code.getD t.address default <;> rfl

theorem length_fork_le (p : Program) (pos : Nat) (t : Thread) : (p.fork pos t).length ≤ 2 := by
  rw [fork]
  cases p.code.getD t.address default <;> simp

theorem reverse_rest (p : Program) (t : Thread) : (p.rest t).reverse = p.rest t := by
  rw [rest]
  cases p.code.getD t.address default <;> rfl

/-- With enough fuel, pending threads spread until none is left. -/
theorem spreads_spread {fuel : Nat} (hfuel : pending.length + 2 * s.unseen ≤ fuel) :
    ∃ out, Spreads p pos s.Seen pending out (p.spread pos fuel pending s).Seen ∧
      (p.spread pos fuel pending s).threads = out.reverse ++ s.threads := by
  induction fuel generalizing pending s with
  | zero =>
    obtain rfl : pending = [] := List.length_eq_zero_iff.1 (by omega)
    exact ⟨[], .done, rfl⟩
  | succ fuel ih =>
    cases pending with
    | nil => exact ⟨[], .done, rfl⟩
    | cons t pending =>
      rw [List.length_cons] at hfuel
      by_cases hseen : s.Seen t.address
      · obtain ⟨out, hout, hthreads⟩ := @ih s pending (by omega)
        rw [spread_seen hseen]
        exact ⟨out, .skip hseen hout, hthreads⟩
      · -- two more threads at most, for one unseen address less
        have hmark := Step.unseen_mark hseen (p.rest t)
        have hfork := p.length_fork_le pos t
        obtain ⟨out, hout, hthreads⟩ := @ih (s.mark t.address (p.rest t)) (p.fork pos t ++ pending) (by
          rw [List.length_append]
          omega)
        rw [Step.seen_mark hseen] at hout
        refine ⟨p.rest t ++ out, ?_, ?_⟩
        · rw [spread_unseen hseen]
          exact .enter hseen hout
        · rw [spread_unseen hseen, hthreads, List.reverse_append, reverse_rest, List.append_assoc]
          rfl

namespace Spreads

variable {seen seen' seen'' : Nat → Prop} {pending' out' : List Thread}

theorem append (h : Spreads p pos seen pending out seen') (h' : Spreads p pos seen' pending' out' seen'') :
    Spreads p pos seen (pending ++ pending') (out ++ out') seen'' := by
  induction h with
  | done => exact h'
  | skip hseen _ ih => exact .skip hseen (ih h')
  | enter hseen _ ih =>
    have hrest := ih h'
    rw [List.append_assoc] at hrest ⊢
    exact .enter hseen hrest

theorem split (h : Spreads p pos seen (pending ++ pending') out seen'') :
    ∃ first seen' second, Spreads p pos seen pending first seen' ∧
      Spreads p pos seen' pending' second seen'' ∧ out = first ++ second := by
  generalize hall : pending ++ pending' = all at h
  induction h generalizing pending with
  | @done seen =>
    obtain ⟨rfl, rfl⟩ := List.append_eq_nil_iff.1 hall
    exact ⟨[], seen, [], .done, .done, rfl⟩
  | @skip seen _ t _ _ hseen hrest ih =>
    cases pending with
    | nil =>
      obtain rfl : pending' = _ := hall
      exact ⟨[], seen, _, .done, .skip hseen hrest, rfl⟩
    | cons t' pending =>
      obtain ⟨rfl, htail⟩ := List.cons.inj hall
      obtain ⟨first, seen', second, hfirst, hsecond, rfl⟩ := ih htail
      exact ⟨first, seen', second, .skip hseen hfirst, hsecond, rfl⟩
  | @enter seen _ t _ _ hseen hrest ih =>
    cases pending with
    | nil =>
      obtain rfl : pending' = _ := hall
      exact ⟨[], seen, _, .done, .enter hseen hrest, rfl⟩
    | cons t' pending =>
      obtain ⟨rfl, rfl⟩ := List.cons.inj hall
      obtain ⟨first, seen', second, hfirst, hsecond, rfl⟩ := ih (List.append_assoc ..)
      exact ⟨_, seen', second, .enter hseen hfirst, hsecond, (List.append_assoc ..).symm⟩

theorem unique (h : Spreads p pos seen pending out seen') (h' : Spreads p pos seen pending out' seen'') :
    out = out' ∧ seen' = seen'' := by
  induction h generalizing out' seen'' with
  | done =>
    cases h'
    exact ⟨rfl, rfl⟩
  | skip hseen _ ih =>
    cases h' with
    | skip _ h' => exact ih h'
    | enter hnot _ => exact absurd hseen hnot
  | enter hnot _ ih =>
    cases h' with
    | skip hseen _ => exact absurd hseen hnot
    | enter _ h' =>
      obtain ⟨rfl, rfl⟩ := ih h'
      exact ⟨rfl, rfl⟩

/-- A property that forking preserves holds where the threads come to rest. -/
theorem forall_out {holds : Thread → Prop} (h : Spreads p pos seen pending out seen')
    (hfork : ∀ t, holds t → ∀ t' ∈ p.fork pos t, holds t') (hp : ∀ t ∈ pending, holds t) :
    ∀ t ∈ out, holds t := by
  induction h with
  | done => exact hp
  | skip _ _ ih => exact ih (List.forall_mem_cons.1 hp).2
  | enter _ _ ih =>
    obtain ⟨ht, hp⟩ := List.forall_mem_cons.1 hp
    refine List.forall_mem_append.2 ⟨fun t' ht' => ?_, ih (List.forall_mem_append.2 ⟨hfork _ ht, hp⟩)⟩
    rw [(mem_rest.1 ht').1]
    exact ht

theorem of_mem_out (h : Spreads p pos seen pending out seen') :
    ∀ t ∈ out, p.rest t = [t] ∧ ¬ seen t.address := by
  induction h with
  | done => exact List.forall_mem_nil _
  | skip _ _ ih => exact ih
  | enter hseen _ ih =>
    refine List.forall_mem_append.2 ⟨fun t' ht' => ?_, fun t' ht' => ?_⟩
    · obtain ⟨rfl, hrest⟩ := mem_rest.1 ht'
      exact ⟨hrest, hseen⟩
    · exact ⟨(ih t' ht').1, fun hs => (ih t' ht').2 (.inr hs)⟩

theorem seen_of_mem_out (h : Spreads p pos seen pending out seen') : ∀ t ∈ out, seen' t.address := by
  have hle : ∀ {seen seen' pending out}, Spreads p pos seen pending out seen' → ∀ a, seen a → seen' a := by
    intro seen seen' pending out h
    induction h with
    | done => exact fun _ => id
    | skip _ _ ih => exact ih
    | enter _ _ ih => exact fun a ha => ih a (.inr ha)
  induction h with
  | done => exact List.forall_mem_nil _
  | skip _ _ ih => exact ih
  | enter _ hrest ih =>
    refine List.forall_mem_append.2 ⟨fun t' ht' => ?_, ih⟩
    rw [(mem_rest.1 ht').1]
    exact hle hrest _ (.inl rfl)

/-- Threads do not enter addresses outside a region that forking does not leave. -/
theorem within {region : Nat → Prop} (h : Spreads p pos seen pending out seen')
    (hregion : ∀ a, region a → ∀ c ∈ (p.code.getD a default).forks, region c)
    (hp : ∀ t ∈ pending, region t.address) : ∀ a, seen' a → seen a ∨ region a := by
  induction h with
  | done => exact fun _ => .inl
  | skip _ _ ih => exact ih (List.forall_mem_cons.1 hp).2
  | @enter _ _ t _ _ _ _ ih =>
    obtain ⟨ht, hp⟩ := List.forall_mem_cons.1 hp
    have hfork : ∀ t' ∈ p.fork pos t, region t'.address := fun t' ht' => by
      refine hregion _ ht _ ?_
      rw [← map_fork p pos]
      exact List.mem_map_of_mem ht'
    intro a ha
    rcases ih (List.forall_mem_append.2 ⟨hfork, hp⟩) a ha with (rfl | hs) | hr
    · exact .inr ht
    · exact .inl hs
    · exact .inr hr

/-- The pending addresses and those that they fork to are seen in the end, and the threads rest
where they can. -/
theorem closed (h : Spreads p pos seen pending out seen') :
    (∀ a, seen a → seen' a) ∧ (∀ t ∈ pending, seen' t.address) ∧ ∀ a, seen' a → seen a ∨
      (∀ c ∈ (p.code.getD a default).forks, seen' c) ∧
        ((p.code.getD a default).forks = [] → ∃ t ∈ out, t.address = a) := by
  induction h with
  | done => exact ⟨fun _ => id, List.forall_mem_nil _, fun _ => .inl⟩
  | skip hseen _ ih =>
    obtain ⟨hle, hp, hclosed⟩ := ih
    exact ⟨hle, List.forall_mem_cons.2 ⟨hle _ hseen, hp⟩, hclosed⟩
  | @enter _ _ t _ _ hseen _ ih =>
    obtain ⟨hle, hp, hclosed⟩ := ih
    obtain ⟨hfork, hp⟩ := List.forall_mem_append.1 hp
    refine ⟨fun a ha => hle a (.inr ha), List.forall_mem_cons.2 ⟨hle _ (.inl rfl), hp⟩, fun a ha => ?_⟩
    rcases hclosed a ha with (rfl | hs) | ⟨hforks, hrest⟩
    · refine .inr ⟨fun c hc => ?_, fun hnone => ⟨t, ?_, rfl⟩⟩
      · rw [← map_fork p pos, List.mem_map] at hc
        obtain ⟨t', ht', rfl⟩ := hc
        exact hfork t' ht'
      · exact List.mem_append_left _ (rest_of_forks hnone ▸ List.mem_singleton_self t)
    · exact .inl hs
    · refine .inr ⟨hforks, fun hnone => ?_⟩
      obtain ⟨t', ht', hta⟩ := hrest hnone
      exact ⟨t', List.mem_append_right _ ht', hta⟩

/-- Inside a region that forking does not leave, only the addresses of the region matter. Those of
`extra`, where threads rest, may be seen in addition: the threads there are left out. -/
theorem frame {region : Nat → Prop} {extra : Nat → Bool} (h : Spreads p pos seen pending out seen')
    (hregion : ∀ a, region a → ∀ c ∈ (p.code.getD a default).forks, region c)
    (hextra : ∀ a, extra a = true → (p.code.getD a default).forks = [])
    (hp : ∀ t ∈ pending, region t.address) {other : Nat → Prop}
    (ho : ∀ a, region a → (other a ↔ seen a ∨ extra a = true)) :
    ∃ other', Spreads p pos other pending (out.filter (!extra ·.address)) other' := by
  induction h generalizing other with
  | done => exact ⟨other, .done⟩
  | @skip _ _ t _ _ hseen _ ih =>
    obtain ⟨ht, hp⟩ := List.forall_mem_cons.1 hp
    obtain ⟨other', hrest⟩ := ih hp ho
    exact ⟨other', .skip ((ho _ ht).2 (.inl hseen)) hrest⟩
  | @enter seen _ t pending _ hseen _ ih =>
    obtain ⟨ht, hp⟩ := List.forall_mem_cons.1 hp
    have hpending : ∀ t' ∈ p.fork pos t ++ pending, region t'.address := by
      refine List.forall_mem_append.2 ⟨fun t' ht' => hregion _ ht _ ?_, hp⟩
      rw [← map_fork p pos]
      exact List.mem_map_of_mem ht'
    rw [List.filter_append]
    cases hx : extra t.address with
    | true =>
      have hforks := hextra _ hx
      have hnone : p.fork pos t = [] := by
        rw [← List.map_eq_nil_iff, map_fork p pos, hforks]
      have hleft : (p.rest t).filter (!extra ·.address) = [] := by
        rw [rest_of_forks hforks]
        exact List.filter_eq_nil_iff.2 fun t' ht' => by simp [List.mem_singleton.1 ht', hx]
      have hseen : ∀ a, region a → (other a ↔ (a = t.address ∨ seen a) ∨ extra a = true) := by
        intro a ha
        rw [ho a ha, or_assoc]
        exact ⟨.inr, fun h => h.elim (fun heq => .inr (heq ▸ hx)) id⟩
      obtain ⟨other', hrest⟩ := ih hpending hseen
      rw [hnone, List.nil_append] at hrest
      rw [hleft]
      exact ⟨other', .skip ((ho _ ht).2 (.inr hx)) hrest⟩
    | false =>
      have hkept : (p.rest t).filter (!extra ·.address) = p.rest t :=
        List.filter_eq_self.2 fun t' ht' => by simp [(mem_rest.1 ht').1, hx]
      have hboth : ∀ a, region a →
          (a = t.address ∨ other a ↔ (a = t.address ∨ seen a) ∨ extra a = true) := by
        intro a ha
        rw [ho a ha, or_assoc]
      obtain ⟨other', hrest⟩ := ih hpending hboth
      rw [hkept]
      exact ⟨other', .enter (fun h => ((ho _ ht).1 h).elim hseen (by simp [hx])) hrest⟩

end Spreads

/-- There is no such address. -/
def Outside (p : Program) (a : Nat) : Prop := p.size ≤ a

theorem seen_noStep (p : Program) : p.noStep.Seen = p.Outside := by
  funext a
  simp only [Step.Seen, noStep, Outside, Array.getD_eq_getD_getElem?, Array.getElem?_replicate, eq_iff_iff]
  split
  · simpa using Nat.not_le_of_lt ‹_›
  · simpa using Nat.le_of_not_lt ‹_›

/-- Where some threads come to rest, one after the other. -/
def closure (p : Program) (pos : Nat) (threads : List Thread) : List Thread :=
  (threads.foldl (p.enter pos) p.noStep).threads.reverse

theorem size_seen_spread (p : Program) (pos fuel : Nat) (pending : List Thread) (s : Step) :
    (p.spread pos fuel pending s).seen.size = s.seen.size := by
  induction fuel generalizing pending s with
  | zero => rfl
  | succ fuel ih =>
    cases pending with
    | nil => rfl
    | cons t pending =>
      by_cases hseen : s.Seen t.address
      · rw [spread_seen hseen, ih]
      · rw [spread_unseen hseen, ih]
        exact Array.size_setIfInBounds

theorem spreads_foldl_enter (hsize : s.seen.size = p.size) :
    ∃ out, Spreads p pos s.Seen threads out (threads.foldl (p.enter pos) s).Seen ∧
      (threads.foldl (p.enter pos) s).threads = out.reverse ++ s.threads := by
  induction threads generalizing s with
  | nil => exact ⟨[], .done, rfl⟩
  | cons t threads ih =>
    have hle : s.unseen ≤ s.seen.size := Array.count_le_size
    obtain ⟨first, hfirst, hthreads⟩ := @spreads_spread p pos s [t] (2 * p.size + 1) (by
      rw [List.length_singleton]
      omega)
    obtain ⟨second, hsecond, hthreads'⟩ := @ih (p.enter pos s t) ((size_seen_spread ..).trans hsize)
    refine ⟨first ++ second, hfirst.append hsecond, ?_⟩
    rw [List.foldl_cons, hthreads', enter, hthreads, List.reverse_append, List.append_assoc]

theorem spreads_closure (p : Program) (pos : Nat) (threads : List Thread) :
    ∃ seen, Spreads p pos p.Outside threads (p.closure pos threads) seen := by
  obtain ⟨out, hout, hthreads⟩ := @spreads_foldl_enter p pos p.noStep threads Array.size_replicate
  have hclosure : p.closure pos threads = out := by
    rw [closure, hthreads, noStep, List.append_nil, List.reverse_reverse]
  rw [hclosure, ← seen_noStep]
  exact ⟨_, hout⟩

end Program

end Polymatch
