import Polymatch.Proofs.Pattern.Language

/-! # Walks through patterns

A walk through a pattern tells what happens on one way to match: groups are opened
and closed, and symbols are read. The automaton and the program of a pattern take
walks in their own ways. Both go through a loop again only if the round reads a
symbol, and behind every symbol the groups that may end there have marks to claim.
-/

namespace Polymatch

/-- What happens on a way through a pattern. -/
inductive Event
  | opening (label : Label)
  /-- A group is closed; its body matches the empty input or does not. -/
  | closing (label : Label) (nullable : Bool)
  /-- A symbol is read, with the marks that it owes. -/
  | read (x : Nat) (owed : Marks)

namespace Event

/-- The symbol that is read. -/
def symbol? : Event → Option Nat
  | read x _ => some x
  | _ => none

/-- The symbols that are read on a way. -/
def word (es : List Event) : List Nat := es.filterMap symbol?

variable {es es' : List Event} {copies : List (List Event)}

theorem word_append (es es' : List Event) : word (es ++ es') = word es ++ word es' :=
  List.filterMap_append

theorem word_append_eq_nil : word (es ++ es') = [] ↔ word es = [] ∧ word es' = [] := by
  rw [word_append, List.append_eq_nil_iff]

theorem word_flatten (copies : List (List Event)) : word copies.flatten = (copies.map word).flatten :=
  List.filterMap_flatten

theorem word_flatten_eq_nil : word copies.flatten = [] ↔ ∀ es ∈ copies, word es = [] := by
  rw [word_flatten, List.flatten_eq_nil_iff, List.forall_mem_map]

/-- What holds of no events, and of events behind each other, holds of copies behind each other. -/
theorem flatten_of_append (holds : List Event → Prop) (hnil : holds [])
    (happend : ∀ es es', holds es → holds es' → holds (es ++ es')) (h : ∀ es ∈ copies, holds es) :
    holds copies.flatten := by
  induction copies with
  | nil => exact hnil
  | cons es copies ih =>
    obtain ⟨hes, hcopies⟩ := List.forall_mem_cons.1 h
    exact happend _ _ hes (ih hcopies)

end Event

namespace Pattern

open Event

/-- The ways through a pattern that owes some marks. Only rounds that a loop demands may read nothing. -/
inductive Walk (layout : Layout) : Pattern → Marks → List Event → Prop
  | symbols {ranges : List Interval} {owed : Marks} {x : Nat} : Interval.covers ranges x = true →
      Walk layout (.symbols ranges) owed [.read x owed]
  | nil {owed : Marks} : Walk layout (.sequence []) owed []
  | cons {item : Pattern} {rest : List Pattern} {owed : Marks} {es es' : List Event} :
      Walk layout item (if allNullable rest then owed else ∅) es → Walk layout (.sequence rest) owed es' →
        Walk layout (.sequence (item :: rest)) owed (es ++ es')
  | select {branches : List Pattern} {branch : Pattern} {owed : Marks} {es : List Event} :
      branch ∈ branches → Walk layout branch owed es → Walk layout (.select branches) owed es
  | counted {body : Pattern} {counts : List Nat} {owed : Marks} {copies : List (List Event)} :
      copies.length ∈ counts → (∀ es ∈ copies, Walk layout body owed es) →
        Walk layout (.counted body counts) owed copies.flatten
  | loop {body : Pattern} {policy : LoopPolicy} {owed : Marks} {copies rounds : List (List Event)} :
      (∀ es ∈ copies, Walk layout body owed es) → (∀ es ∈ rounds, Walk layout body owed es) →
        (∀ es ∈ rounds, word es ≠ []) →
          Walk layout (.loop body copies.length policy) owed (copies.flatten ++ rounds.flatten)
  | skip {body : Pattern} {owed : Marks} : Walk layout (.optional body) owed []
  | take {body : Pattern} {owed : Marks} {es : List Event} : Walk layout body owed es →
      Walk layout (.optional body) owed es
  | group {label : Label} {body : Pattern} {owed : Marks} {es : List Event} : label ∈ layout.labels →
      Walk layout body (owed ∪ .closing (layout.slotOf label) true) es →
        Walk layout (.group label body) owed (.opening label :: (es ++ [.closing label body.nullable]))

variable {layout : Layout} {p : Pattern} {owed : Marks} {es : List Event}

theorem anyNullable_of_mem {branches : List Pattern} {b : Pattern} (hb : b ∈ branches)
    (h : b.nullable = true) : anyNullable branches = true := by
  induction branches with
  | nil => exact nomatch hb
  | cons c rest ih =>
    rw [anyNullable, Bool.or_eq_true]
    rcases List.mem_cons.1 hb with rfl | hb
    · exact .inl h
    · exact .inr (ih hb)

/-- Only a pattern that matches the empty input has a way without symbols. -/
theorem Walk.nullable (h : Walk layout p owed es) (hp : p.Ascending) (hw : word es = []) :
    p.nullable = true := by
  induction h with
  | symbols _ => exact nomatch hw
  | nil => rfl
  | cons _ _ ih ih' =>
    obtain ⟨hw, hw'⟩ := word_append_eq_nil.1 hw
    exact Bool.and_eq_true_iff.2 ⟨ih hp.1 hw, ih' hp.2 hw'⟩
  | select hb _ ih => exact anyNullable_of_mem hb (ih (ascending_of_mem hp hb) hw)
  | @counted body counts _ copies hlength _ ih =>
    rw [Pattern.nullable, Bool.or_eq_true]
    cases copies with
    | nil =>
      -- counts ascend, so none of them is below a count of 0
      obtain ⟨count, rest, rfl⟩ := List.exists_cons_of_ne_nil hp.2.1
      refine .inl ?_
      rcases List.mem_cons.1 hlength with hzero | hmem
      · simp [← hzero]
      · have hle := (List.pairwise_cons.1 hp.2.2).1 0 hmem
        simp [Nat.le_zero.1 hle]
    | cons es copies =>
      have hw := word_flatten_eq_nil.1 hw es List.mem_cons_self
      exact .inr (ih es List.mem_cons_self hp.1 hw)
  | @loop body policy _ copies rounds _ _ _ ih _ =>
    rw [Pattern.nullable, Bool.or_eq_true]
    cases copies with
    | nil => exact .inl rfl
    | cons es copies =>
      have hw := word_flatten_eq_nil.1 (word_append_eq_nil.1 hw).1 es List.mem_cons_self
      exact .inr (ih es List.mem_cons_self hp hw)
  | skip => rfl
  | take _ _ => rfl
  | group _ _ ih =>
    rw [← List.cons_append, word_append_eq_nil] at hw
    exact ih hp hw.1

end Pattern

end Polymatch
