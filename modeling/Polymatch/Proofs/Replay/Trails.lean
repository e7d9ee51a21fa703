import Polymatch.Proofs.Replay.Branches

/-! # Trails of threads

The groups that a replay finds are those of a single thread. Between two symbols this
thread forks along a trail that enters no address twice: an address that was seen is
closed to every thread behind. So the thread takes no round of a loop without a
symbol, unless the loop demands the round.
-/

namespace Polymatch

namespace Program

variable {p : Program} {pos x : Nat} {w entered : List Nat} {seen seen' : Nat → Prop}
  {pending out threads : List Thread} {t t' : Thread} {found : Groups}

/-- A thread finds groups at the end of an input. In front of the next symbol, it enters no address
twice, and none that was entered before. -/
inductive Trail (p : Program) : List Nat → Thread → Nat → List Nat → Groups → Prop
  | accept {entered : List Nat} {t : Thread} {pos : Nat} : p.code.getD t.address default = .accept →
      Trail p entered t pos [] t.groups
  | fork {entered w : List Nat} {t t' : Thread} {pos : Nat} {found : Groups} : t.address ∉ entered →
      t' ∈ p.fork pos t → Trail p (t.address :: entered) t' pos w found → Trail p entered t pos w found
  | consume {entered w : List Nat} {t t' : Thread} {pos x : Nat} {found : Groups} :
      p.consume? x t = some t' → Trail p [] t' (pos + 1) w found → Trail p entered t pos (x :: w) found

/-- A trail from where a thread comes to rest goes back to a pending thread. Addresses on the way
were not seen before. -/
theorem Spreads.exists_trail (h : Spreads p pos seen pending out seen') (ht : t ∈ out)
    (htrail : ∀ entered, p.Trail entered t pos w found) :
    ∃ t' ∈ pending, ∀ entered : List Nat, (∀ a ∈ entered, seen a) → p.Trail entered t' pos w found := by
  induction h with
  | done => exact nomatch ht
  | skip _ _ ih =>
    obtain ⟨t', ht', htrail'⟩ := ih ht
    exact ⟨t', List.mem_cons_of_mem _ ht', htrail'⟩
  | @enter seen _ first pending _ hseen _ ih =>
    rcases List.mem_append.1 ht with ht | ht
    · rw [(mem_rest.1 ht).1] at htrail
      exact ⟨first, List.mem_cons_self, fun entered _ => htrail entered⟩
    · obtain ⟨t', ht', htrail'⟩ := ih ht
      rcases List.mem_append.1 ht' with hfork | hpending
      · refine ⟨first, List.mem_cons_self, fun entered hentered => ?_⟩
        have hfirst : ∀ a ∈ first.address :: entered, a = first.address ∨ seen a :=
          List.forall_mem_cons.2 ⟨.inl rfl, fun a ha => .inr (hentered a ha)⟩
        exact .fork (fun hmem => hseen (hentered _ hmem)) hfork (htrail' _ hfirst)
      · exact ⟨t', List.mem_cons_of_mem _ hpending, fun entered hentered =>
          htrail' entered fun a ha => .inr (hentered a ha)⟩

theorem exists_trail_closure (ht : t ∈ p.closure pos threads)
    (htrail : ∀ entered, p.Trail entered t pos w found) : ∃ t' ∈ threads, p.Trail [] t' pos w found := by
  obtain ⟨seen, h⟩ := p.spreads_closure pos threads
  obtain ⟨t', ht', htrail'⟩ := h.exists_trail ht htrail
  exact ⟨t', ht', htrail' [] (List.forall_mem_nil _)⟩

/-- Groups that a replay finds are those at the end of a trail. -/
theorem exists_trail_replayFrom (h : p.replayFrom pos w threads = some found) :
    ∃ t ∈ threads, ∀ entered, p.Trail entered t pos w found := by
  induction w generalizing pos threads with
  | nil =>
    rw [replayFrom, Option.map_eq_some_iff] at h
    obtain ⟨t, ht, rfl⟩ := h
    have haccept := List.find?_some ht
    exact ⟨t, List.mem_of_find?_eq_some ht, fun _ => .accept (beq_iff_eq.1 haccept)⟩
  | cons x w ih =>
    rw [replayFrom_cons, advance_eq] at h
    obtain ⟨t, ht, htrail⟩ := ih h
    obtain ⟨t', ht', htrail'⟩ := exists_trail_closure ht htrail
    obtain ⟨t'', ht'', hconsume⟩ := List.mem_filterMap.1 ht'
    exact ⟨t'', ht'', fun _ => .consume hconsume htrail'⟩

/-- What a program captures is found on a trail from its start. -/
theorem exists_trail_captures? {c : Captured} (h : p.captures? pos w = some c) :
    ∃ found, p.Trail [] ⟨p.start, List.replicate p.groups []⟩ pos w found ∧
      c = ⟨⟨pos, pos + w.length⟩, found.map List.reverse⟩ := by
  rw [captures?_eq, Option.map_eq_some_iff] at h
  obtain ⟨found, hfound, rfl⟩ := h
  rw [replayAt] at hfound
  obtain ⟨t, ht, htrail⟩ := exists_trail_replayFrom hfound
  obtain ⟨t', ht', htrail'⟩ := exists_trail_closure ht htrail
  obtain rfl := List.mem_singleton.1 ht'
  exact ⟨found, htrail', rfl⟩

end Program

end Polymatch
