import Polymatch.Proofs.Replay.Trails

/-! # The best course

A course of a thread through an input goes forward in segments: without consuming, the
thread forks to where it rests and enters no address twice, then it consumes a symbol.
A course is better than another if it takes the earlier way at the first fork where they
part. Threads spread depth first, and one that is dropped because its address was seen
could only have gone on along a worse course than the thread that was there before. So
what a program captures are the groups at the end of the best course of all.
-/

namespace Polymatch

namespace Program

variable {p : Program} {pos k x : Nat} {w choices choices' : List Nat} {entered entered' seen seen' : Nat → Prop}
  {pending out first later : List Thread} {t t' r r' : Thread} {found found' : Groups} {ways ways' : List (List Nat)}

section Segments

/-- Without consuming, the thread `t` forks to where `r` rests, and enters no address twice and none that
was entered before. The numbers say which of the threads it goes on with at every fork. -/
inductive Segment (p : Program) (pos : Nat) : (Nat → Prop) → Thread → List Nat → Thread → Prop
  | rest {entered : Nat → Prop} {t : Thread} : ¬ entered t.address → p.Resting t → Segment p pos entered t [] t
  | fork {entered : Nat → Prop} {t t' r : Thread} {k : Nat} {choices : List Nat} : ¬ entered t.address →
      (p.fork pos t)[k]? = some t' → Segment p pos (fun a => a = t.address ∨ entered a) t' choices r →
      Segment p pos entered t (k :: choices) r

theorem Resting.fork_eq (h : p.Resting t) (pos : Nat) : p.fork pos t = [] := by
  rw [← List.map_eq_nil_iff, map_fork, h.forks]

theorem Resting.of_address (h : p.Resting t) (ht : t'.address = t.address) : p.Resting t' :=
  ⟨rest_of_forks (ht ▸ h.forks), ht ▸ h.inside⟩

/-- Threads at the same address fork to the same addresses. -/
theorem exists_fork_of_address (hk : (p.fork pos t)[k]? = some r) (ht : t'.address = t.address) :
    ∃ r', (p.fork pos t')[k]? = some r' ∧ r'.address = r.address := by
  have haddress : ((p.fork pos t').map (·.address))[k]? = some r.address := by
    rw [map_fork, ht, ← map_fork p pos, List.getElem?_map, hk, Option.map_some]
  rw [List.getElem?_map] at haddress
  exact Option.map_eq_some_iff.1 haddress

namespace Segment

theorem resting (h : Segment p pos entered t choices r) : p.Resting r := by
  induction h with
  | rest _ hr => exact hr
  | fork _ _ _ ih => exact ih

/-- Fewer addresses that were entered before leave more segments. -/
theorem mono (h : Segment p pos entered t choices r) (hle : ∀ a, entered' a → entered a) :
    Segment p pos entered' t choices r := by
  induction h generalizing entered' with
  | rest hnot hr => exact .rest (fun ha => hnot (hle _ ha)) hr
  | fork hnot hk _ ih =>
    exact .fork (fun ha => hnot (hle _ ha)) hk (ih fun a ha => ha.imp_right (hle a))

/-- The choices decide where a segment ends. -/
theorem unique (h : Segment p pos entered t choices r) (h' : Segment p pos entered' t choices r') :
    r = r' := by
  induction h generalizing entered' with
  | rest _ _ =>
    cases h'
    rfl
  | fork _ hk _ ih =>
    cases h' with
    | fork _ hk' h' =>
      obtain rfl := Option.some.inj (hk.symm.trans hk')
      exact ih h'

/-- A thread at the same address has the same segments, whatever its groups. -/
theorem exists_of_address (h : Segment p pos entered t choices r) (ht : t'.address = t.address) :
    ∃ r', Segment p pos entered t' choices r' ∧ r'.address = r.address := by
  induction h generalizing t' with
  | rest hnot hr => exact ⟨t', .rest (ht ▸ hnot) (hr.of_address ht), ht⟩
  | fork hnot hk _ ih =>
    obtain ⟨u', hk', hu⟩ := exists_fork_of_address hk ht
    obtain ⟨r', hr', haddress⟩ := ih hu
    exact ⟨r', .fork (ht ▸ hnot) hk' (ht ▸ hr'), haddress⟩

/-- A segment can do without an address, or what comes behind the address is a segment from there. -/
theorem avoid_or (h : Segment p pos entered t choices r) (u : Thread) :
    Segment p pos (fun a => a = u.address ∨ entered a) t choices r ∨
      ∃ choices' r', Segment p pos entered u choices' r' ∧ r'.address = r.address := by
  induction h with
  | @rest entered t hnot hr =>
    by_cases hu : u.address = t.address
    · exact .inr ⟨[], u, .rest (hu ▸ hnot) (hr.of_address hu), hu⟩
    · exact .inl (.rest (not_or.2 ⟨Ne.symm hu, hnot⟩) hr)
  | @fork entered t t' r k choices hnot hk hrest ih =>
    by_cases hu : u.address = t.address
    · obtain ⟨r', hr', haddress⟩ := (Segment.fork hnot hk hrest).exists_of_address hu
      exact .inr ⟨_, r', hr', haddress⟩
    · rcases ih with hleft | ⟨choices', r', hr', haddress⟩
      · refine .inl (.fork (not_or.2 ⟨Ne.symm hu, hnot⟩) hk (hleft.mono fun a ha => ?_))
        exact or_left_comm.1 ha
      · exact .inr ⟨choices', r', hr'.mono fun a ha => .inr ha, haddress⟩

end Segment

/-- The choices are the same, or part from the others at an earlier way. -/
def NoLater (choices choices' : List Nat) : Prop := choices = choices' ∨ choices < choices'

theorem noLater_cons {i j : Nat} :
    NoLater (i :: choices) (j :: choices') ↔ i < j ∨ i = j ∧ NoLater choices choices' := by
  rw [NoLater, NoLater, List.cons_lt_cons_iff, List.cons.injEq, and_or_left]
  exact or_left_comm

/-- Of all segments from some threads to where `good` holds, the first in the order of the threads and then
of the choices. -/
structure FirstSegment (p : Program) (pos : Nat) (seen good : Nat → Prop) (threads : List Thread) (i : Nat)
    (choices : List Nat) (r : Thread) : Prop where
  segment : ∃ t, threads[i]? = some t ∧ Segment p pos seen t choices r
  target : good r.address
  noLater : ∀ i' t' choices' r', threads[i']? = some t' → Segment p pos seen t' choices' r' →
    good r'.address → NoLater (i :: choices) (i' :: choices')

namespace FirstSegment

variable {good : Nat → Prop} {i : Nat}

theorem skip (h : FirstSegment p pos seen good pending i choices r) (hseen : seen t.address) :
    FirstSegment p pos seen good (t :: pending) (i + 1) choices r where
  segment := h.segment
  target := h.target
  noLater i' t' choices' r' hi' hsegment' hr' := by
    cases i' with
    | zero =>
      obtain rfl := Option.some.inj hi'
      cases hsegment' with
      | rest hnot _ => exact absurd hseen hnot
      | fork hnot _ _ => exact absurd hseen hnot
    | succ i' => simpa [noLater_cons] using h.noLater i' t' choices' r' hi' hsegment' hr'

theorem rest (hseen : ¬ seen t.address) (ht : p.Resting t) (hgood : good t.address) :
    FirstSegment p pos seen good (t :: pending) 0 [] t where
  segment := ⟨t, rfl, .rest hseen ht⟩
  target := hgood
  noLater i' t' choices' r' hi' hsegment' _ := by
    cases i' with
    | zero =>
      obtain rfl := Option.some.inj hi'
      cases hsegment' with
      | rest _ _ => exact .inl rfl
      | fork _ hk _ => simp [ht.fork_eq] at hk
    | succ i' => exact noLater_cons.2 (.inl i'.succ_pos)

/-- Segments from the thread that forks stand for those from its forks, at the same places. -/
theorem noLater_fork
    (h : FirstSegment p pos (fun a => a = t.address ∨ seen a) good (p.fork pos t ++ pending) i choices r)
    (ht : p.Resting t → ¬ good t.address) (hsegment : Segment p pos seen t choices' r') (hr' : good r'.address) :
    ∃ k < (p.fork pos t).length, ∃ rest, choices' = k :: rest ∧ NoLater (i :: choices) (k :: rest) := by
  cases hsegment with
  | rest _ hresting => exact absurd hr' (ht hresting)
  | @fork _ _ t' _ k rest _ hk hsegment =>
    have hlt : k < (p.fork pos t).length := (List.getElem?_eq_some_iff.1 hk).1
    refine ⟨k, hlt, rest, rfl, h.noLater k t' rest r' ?_ hsegment hr'⟩
    rw [List.getElem?_append_left hlt, hk]

theorem enter (hseen : ¬ seen t.address) (ht : p.Resting t → ¬ good t.address)
    (h : FirstSegment p pos (fun a => a = t.address ∨ seen a) good (p.fork pos t ++ pending) i choices r) :
    ∃ i' choices', FirstSegment p pos seen good (t :: pending) i' choices' r := by
  obtain ⟨u, hi, hsegment⟩ := h.segment
  rcases Nat.lt_or_ge i (p.fork pos t).length with hlt | hge
  · rw [List.getElem?_append_left hlt] at hi
    refine ⟨0, i :: choices, ⟨t, rfl, .fork hseen hi hsegment⟩, h.target, fun i' t' choices' r' hi' hsegment' hr' => ?_⟩
    cases i' with
    | zero =>
      obtain rfl := Option.some.inj hi'
      obtain ⟨k, -, rest, rfl, hle⟩ := h.noLater_fork ht hsegment' hr'
      exact noLater_cons.2 (.inr ⟨rfl, hle⟩)
    | succ i' => exact noLater_cons.2 (.inl i'.succ_pos)
  · -- no segment from the thread itself, so the others can do without its address
    have hno : ∀ choices' r', Segment p pos seen t choices' r' → ¬ good r'.address := by
      intro choices' r' hsegment' hr'
      obtain ⟨k, hlt, rest, -, hle⟩ := h.noLater_fork ht hsegment' hr'
      rcases noLater_cons.1 hle with hik | ⟨rfl, -⟩ <;> omega
    rw [List.getElem?_append_right hge] at hi
    refine ⟨i - (p.fork pos t).length + 1, choices, ⟨u, hi, hsegment.mono fun a => .inr⟩, h.target,
      fun i' t' choices' r' hi' hsegment' hr' => ?_⟩
    cases i' with
    | zero =>
      obtain rfl := Option.some.inj hi'
      exact absurd hr' (hno choices' r' hsegment')
    | succ i' =>
      rcases hsegment'.avoid_or t with havoid | ⟨choices'', r'', hsegment'', haddress⟩
      · have hle := h.noLater ((p.fork pos t).length + i') t' choices' r' (by
          rw [List.getElem?_append_right (Nat.le_add_right ..), Nat.add_sub_cancel_left]
          exact hi') havoid hr'
        exact noLater_cons.2 ((noLater_cons.1 hle).imp (fun _ => by omega) fun h => ⟨by omega, h.2⟩)
      · exact absurd (haddress ▸ hr') (hno choices'' r'' hsegment'')

end FirstSegment

end Segments

section Courses

/-- A way of a thread through an input to an instruction that accepts: segments without consuming, and a
symbol consumed between them. The numbers are the choices in every segment. -/
inductive Course (p : Program) : Nat → Thread → List Nat → List (List Nat) → Groups → Prop
  | stop {pos : Nat} {t r : Thread} {choices : List Nat} : Segment p pos p.Outside t choices r →
      p.code.getD r.address default = .accept → Course p pos t [] [choices] r.groups
  | step {pos x : Nat} {t r t' : Thread} {w choices : List Nat} {ways : List (List Nat)} {found : Groups} :
      Segment p pos p.Outside t choices r → p.consume? x r = some t' → Course p (pos + 1) t' w ways found →
      Course p pos t (x :: w) (choices :: ways) found

/-- Every other course parts from this one at a later way. -/
structure Best (p : Program) (pos : Nat) (t : Thread) (w : List Nat) (ways : List (List Nat)) (found : Groups) :
    Prop where
  course : Course p pos t w ways found
  least : ∀ ways' found', Course p pos t w ways' found' → ways < ways' ∨ ways = ways' ∧ found = found'

theorem exists_consume?_of_address (h : p.consume? x t = some r) (ht : t'.address = t.address) :
    ∃ r', p.consume? x t' = some r' ∧ r'.address = r.address := by
  obtain ⟨ranges, next, hi, hx, rfl⟩ := consume?_eq_some.1 h
  exact ⟨_, consume?_eq_some.2 ⟨ranges, next, ht ▸ hi, hx, rfl⟩, rfl⟩

namespace Course

theorem exists_of_address (h : Course p pos t w ways found) (ht : t'.address = t.address) :
    ∃ found', Course p pos t' w ways found' := by
  induction h generalizing t' with
  | stop hsegment haccept =>
    obtain ⟨r', hr', haddress⟩ := hsegment.exists_of_address ht
    exact ⟨_, .stop hr' (haddress ▸ haccept)⟩
  | step hsegment hconsume _ ih =>
    obtain ⟨r', hr', haddress⟩ := hsegment.exists_of_address ht
    obtain ⟨u', hu', hnext⟩ := exists_consume?_of_address hconsume haddress
    obtain ⟨found', hfound'⟩ := ih hnext
    exact ⟨found', .step hr' hu' hfound'⟩

end Course

theorem Best.unique (h : Best p pos t w ways found) (h' : Best p pos t w ways' found') : found = found' := by
  rcases h.least _ _ h'.course with hlt | ⟨-, heq⟩
  · rcases h'.least _ _ h.course with hlt' | ⟨rfl, -⟩
    · exact absurd hlt' (List.lt_asymm hlt)
    · exact absurd hlt (List.lt_irrefl _)
  · exact heq

end Courses

end Program

end Polymatch
