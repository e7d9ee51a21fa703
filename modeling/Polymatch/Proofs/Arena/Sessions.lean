import Polymatch.Proofs.Arena.Languages
import Polymatch.Proofs.Arena.Lockstep
import Polymatch.Proofs.Arena.Reached

/-! # Sessions with an arena

A client names nodes by the answers to its earlier calls. When nodes are resolved between the calls, the
arena gets unions that it would not have got, and the calls answer other nodes than they would have
answered, but counterparts of them. What resolving notes down stays true when loops are closed later, as
long as no open marker is below the nodes that are resolved.
-/

namespace Polymatch

open Relation (TransGen)

/-- An arena and the nodes that it has answered. -/
structure Session where
  arena : Arena
  answers : List Nat

namespace Session

/-- A call on an arena. Operands are places in the list of the nodes that have been answered. -/
inductive Call
  | edge (ranges : List Interval) (next : Nat) (marks : Marks)
  | marker
  | annotate (inner : Nat) (marks : Marks)
  | prefer (winner loser : Nat)
  | union (a b : Nat)
  | subtract (node remove : Nat)
  | closeLoop (marker body tail : Nat) (policy : LoopPolicy)

/-- A call, or some node of the arena is resolved. -/
inductive Action
  | call (c : Call)
  | resolve (i : Nat)

def Action.isCall : Action → Bool
  | call _ => true
  | resolve _ => false

/-- The two fixed nodes are known from the start. -/
def start : Session := ⟨.new, [Arena.nothing, Arena.terminal]⟩

/-- The node at a place; it matches nothing if there is no such place yet. -/
def node (s : Session) (place : Nat) : Nat := s.answers.getD place Arena.nothing

/-- The answer to a call. There is none if the ranges of a class overlap, or a loop is closed whose marker is
not open. -/
def answer? (σ : Alphabet) (s : Session) : Call → Option (Nat × Arena)
  | .edge ranges next marks =>
    if (Arena.classOverlap? σ ranges).isNone then some (s.arena.edge σ ranges (s.node next) marks) else none
  | .marker => some s.arena.marker
  | .annotate inner marks => some (s.arena.annotate (s.node inner) marks)
  | .prefer winner loser => some (s.arena.prefer (s.node winner) (s.node loser))
  | .union a b => some (s.arena.union (s.node a) (s.node b))
  | .subtract node remove => some (s.arena.subtract (s.node node) (s.node remove))
  | .closeLoop marker body tail policy =>
    if s.arena.isOpenMarker (s.node marker) then
      some (s.arena.closeLoop (s.node marker) (s.node body) (s.node tail) policy)
    else none

def act (σ : Alphabet) (s : Session) : Action → Option Session
  | .call c => (s.answer? σ c).map fun r => ⟨r.2, s.answers ++ [r.1]⟩
  | .resolve i => if i < s.arena.size then some ⟨(s.arena.resolve i).2, s.answers⟩ else none

def run (σ : Alphabet) : Session → List Action → Option Session
  | s, [] => some s
  | s, a :: rest => (s.act σ a).bind (·.run σ rest)

/-- Nodes of the arena are resolved, and only while no open marker is below them. -/
def Timely (σ : Alphabet) : Session → List Action → Prop
  | _, [] => True
  | s, a :: rest => (∀ i, a = .resolve i → i < s.arena.size ∧ s.arena.Quiet i) ∧
    ∀ t, s.act σ a = some t → t.Timely σ rest

variable {σ : Alphabet} {s s' t : Session} {c : Call} {actions : List Action} {r : Nat × Arena} {R : Nat → Nat → Prop}

section Answer

/-- The arena is tidy, and the answers are nodes of it. -/
structure Proper (s : Session) : Prop where
  tidy : s.arena.Tidy
  lt : ∀ i ∈ s.answers, i < s.arena.size

theorem Proper.node_lt (hs : s.Proper) (k : Nat) : s.node k < s.arena.size := by
  unfold node
  rw [List.getD_eq_getElem?_getD]
  cases h : s.answers[k]? with
  | none => exact hs.tidy.nothing_lt
  | some i => exact hs.lt i (List.mem_of_getElem? h)

theorem Proper.settled (hs : s.Proper) (hc : s.answer? σ c = some r) : s.arena.Settled r := by
  cases c with
  | edge ranges next marks =>
    obtain ⟨-, hr⟩ := Option.ite_none_right_eq_some.1 hc
    cases hr
    exact (Arena.kept_edge hs.tidy ..).settled
  | marker =>
    cases hc
    exact ⟨hs.tidy.marker, (Arena.adds_push fun _ => rfl).continues, Arena.marker_lt _⟩
  | annotate inner marks =>
    cases hc
    exact (Arena.kept_annotate hs.tidy (hs.node_lt _)).settled
  | prefer winner loser =>
    cases hc
    exact (Arena.kept_prefer hs.tidy (hs.node_lt _) (hs.node_lt _)).settled
  | union a b =>
    cases hc
    exact (Arena.kept_union hs.tidy (hs.node_lt _) (hs.node_lt _)).settled
  | subtract node remove =>
    cases hc
    exact (Arena.kept_subtract hs.tidy (hs.node_lt _) _).settled
  | closeLoop marker body tail policy =>
    obtain ⟨hopen, hr⟩ := Option.ite_none_right_eq_some.1 hc
    cases hr
    exact Arena.settled_closeLoop hs.tidy (Arena.isOpenMarker_iff.1 hopen) (hs.node_lt _) (hs.node_lt _) policy

theorem Proper.call (hs : s.Proper) (hc : s.answer? σ c = some r) : Proper ⟨r.2, s.answers ++ [r.1]⟩ := by
  have hr := hs.settled hc
  refine ⟨hr.tidy, fun i hi => ?_⟩
  rcases List.mem_append.1 hi with hi | hi
  · exact Nat.lt_of_lt_of_le (hs.lt i hi) hr.continues.size_le
  · exact List.mem_singleton.1 hi ▸ hr.lt

end Answer

section Alongside

/-- A session in whose course nodes have been resolved, beside the same session without that. -/
structure Alongside (R : Nat → Nat → Prop) (s s' : Session) : Prop where
  twins : s.arena.Twins s'.arena R
  informed : s.arena.Informed
  informed' : s'.arena.Informed
  answers : List.Forall₂ R s.answers s'.answers

namespace Alongside

theorem node (h : Alongside R s s') (k : Nat) : R (s.node k) (s'.node k) := by
  have hnothing := h.twins.mirrors.nothing
  have hall := h.answers
  unfold Session.node
  generalize s.answers = answers at hall
  generalize s'.answers = answers' at hall
  induction hall generalizing k with
  | nil => exact hnothing
  | cons hij _ ih =>
    cases k with
    | zero => exact hij
    | succ k => exact ih k

theorem proper (h : Alongside R s s') : s.Proper ∧ s'.Proper := by
  constructor
  · refine ⟨h.twins.left.tidy, fun i hi => ?_⟩
    obtain ⟨i', -, hR⟩ := exists_related h.answers hi
    exact (h.twins.mirrors.lt hR).1
  · refine ⟨h.twins.right.tidy, fun i' hi' => ?_⟩
    obtain ⟨i, -, hR⟩ := exists_related h.answers.flip hi'
    exact (h.twins.mirrors.lt hR).2

/-- Both sessions answer a call, with counterparts. -/
theorem answer? (h : Alongside R s s') (hc : s.answer? σ c = some r)
    (hacyclic : ∀ i, ¬ TransGen r.2.Operand i i) : ∃ r', s'.answer? σ c = some r' ∧
      ∃ R', (∀ i j, R i j → R' i j) ∧ r.2.Twins r'.2 R' ∧ R' r.1 r'.1 := by
  have ht := h.twins
  cases c with
  | edge ranges next marks =>
    obtain ⟨ho, hr⟩ := Option.ite_none_right_eq_some.1 hc
    cases hr
    exact ⟨_, if_pos ho, (Arena.agree_edge ht (Option.isNone_iff_eq_none.1 ho) (h.node next)).twins⟩
  | marker =>
    cases hc
    exact ⟨_, rfl, (Arena.agree_marker ht).twins⟩
  | annotate inner marks =>
    cases hc
    exact ⟨_, rfl, (Arena.agree_annotate ht (h.node inner)).twins⟩
  | prefer winner loser =>
    cases hc
    exact ⟨_, rfl, (Arena.agree_prefer ht (h.node winner) (h.node loser)).twins⟩
  | union a b =>
    cases hc
    exact ⟨_, rfl, (Arena.agree_union ht (h.node a) (h.node b)).twins⟩
  | subtract node remove =>
    cases hc
    exact ⟨_, rfl, (Arena.agree_subtract ht (h.node node) (h.node remove)).twins⟩
  | closeLoop marker body tail policy =>
    obtain ⟨hopen, hr⟩ := Option.ite_none_right_eq_some.1 hc
    cases hr
    have hm := Arena.isOpenMarker_iff.1 hopen
    have hm' := ht.mirrors.opened (h.node marker) hm
    exact ⟨_, if_pos (Arena.isOpenMarker_iff.2 hm'),
      Arena.twins_closeLoop ht hm (h.node marker) (h.node body) (h.node tail) hacyclic⟩

theorem call (h : Alongside R s s') (hc : s.answer? σ c = some r)
    (hacyclic : ∀ i, ¬ TransGen r.2.Operand i i) : ∃ r', s'.answer? σ c = some r' ∧
      ∃ R', Alongside R' ⟨r.2, s.answers ++ [r.1]⟩ ⟨r'.2, s'.answers ++ [r'.1]⟩ := by
  obtain ⟨r', hc', R', hR, ht, hr⟩ := h.answer? hc hacyclic
  refine ⟨r', hc', R', ht, h.informed.continues (h.proper.1.settled hc).continues,
    h.informed'.continues (h.proper.2.settled hc').continues, ?_⟩
  exact List.rel_append (h.answers.imp hR) (.cons hr .nil)

theorem resolve (h : Alongside R s s') {i : Nat} (hi : i < s'.arena.size) (hq : s'.arena.Quiet i) :
    Alongside R s ⟨(s'.arena.resolve i).2, s'.answers⟩ := by
  have hw := h.twins.right.wellFormed
  have hresolves := Arena.resolves_of_quiet hw (h.informed'.grounded hw) hi hq
  have htargeted : s'.arena.Targeted := fun j n hn e he => ((hw.content j n hn).edge e he).next_lt
  have htidy := (Arena.provided_resolve h.twins.right.tidy htargeted hi).tidy
  have hmirrors := h.twins.mirrors.grows hresolves.grows fun j hge hlt =>
    (hresolves.grounded.unions j hge hlt).imp fun _ hu => hu.1
  exact ⟨⟨h.twins.left, ⟨hresolves.grounded.wellFormed, htidy⟩, hmirrors⟩, h.informed, hresolves.grounded.known,
    h.answers⟩

/-- Once all loops are closed, counterparts have the same language. -/
theorem lang_eq (h : Alongside R s s') (hclosed : ∀ i, s.arena.recipe i ≠ .marker none) {i i' : Nat} (hR : R i i') :
    s'.arena.lang i' = s.arena.lang i := by
  have hm := h.twins.mirrors
  have hclosed' : ∀ j, s'.arena.recipe j ≠ .marker none := fun j hr => by
    rcases hm.onto j (Arena.lt_size_of_recipe (by simp [hr])) with ⟨k, hk⟩ | ⟨members, hu⟩
    · exact hclosed k (hm.flip.opened hk hr)
    · cases hr.symm.trans hu
  have hw := h.twins.left.wellFormed
  have hw' := h.twins.right.wellFormed
  rw [Arena.lang_eq_reads hw ⟨h.informed.grounded hw, hclosed⟩ (hm.lt hR).1,
    Arena.lang_eq_reads hw' ⟨h.informed'.grounded hw', hclosed'⟩ (hm.lt hR).2]
  ext w
  rw [Behaviour.mem_reads, Behaviour.mem_reads]
  exact exists₂_congr fun trace marks => and_congr_right fun _ => hm.spells_iff hclosed hclosed' hR

end Alongside

theorem alongside_start : Alongside (fun i j => i = j ∧ i < Arena.new.size) start start := by
  have hinformed : Arena.new.Informed := Arena.Blank.informed fun i hi => absurd (Arena.recipe_new i) hi
  have hsound : Arena.new.Sound := ⟨Arena.wellFormed_new, Arena.tidy_new⟩
  refine ⟨⟨hsound, hsound, Arena.mirrors_new⟩, hinformed, hinformed, ?_⟩
  exact .cons ⟨rfl, by decide⟩ (.cons ⟨rfl, by decide⟩ .nil)

end Alongside

section Run

theorem Timely.call {rest : List Action} (h : ∀ r, s.answer? σ c = some r → Timely σ ⟨r.2, s.answers ++ [r.1]⟩ rest) :
    s.Timely σ (.call c :: rest) := by
  refine ⟨fun _ h => (nomatch h), fun t ht => ?_⟩
  obtain ⟨r, hr, rfl⟩ := Option.map_eq_some_iff.1 ht
  exact h r hr

theorem Timely.resolve {rest : List Action} {i : Nat} (hi : i < s.arena.size) (hq : s.arena.Quiet i)
    (h : Timely σ ⟨(s.arena.resolve i).2, s.answers⟩ rest) : s.Timely σ (.resolve i :: rest) := by
  refine ⟨fun j hj => ?_, fun t ht => ?_⟩
  · cases hj
    exact ⟨hi, hq⟩
  · obtain ⟨-, ht⟩ := Option.ite_none_right_eq_some.1 ht
    cases ht
    exact h

/-- Calls keep the arena tidy and take no node away. -/
theorem Proper.run (hs : s.Proper) (hrun : s.run σ (actions.filter Action.isCall) = some t) :
    t.Proper ∧ s.arena.Settles t.arena := by
  induction actions generalizing s with
  | nil =>
    cases hrun
    exact ⟨hs, .refl _⟩
  | cons a rest ih =>
    cases a with
    | resolve i => exact ih hs hrun
    | call c =>
      obtain ⟨s₁, hact, hrun⟩ := Option.bind_eq_some_iff.1 hrun
      obtain ⟨r, hc, rfl⟩ := Option.map_eq_some_iff.1 hact
      obtain ⟨ht, hsettles⟩ := ih (hs.call hc) hrun
      exact ⟨ht, (hs.settled hc).continues.toSettles.trans hsettles⟩

/-- The sessions stay side by side, whatever is resolved in the one of them, and when. -/
theorem Alongside.run (h : Alongside R s s') (hrun : s.run σ (actions.filter Action.isCall) = some t)
    (hacyclic : ∀ i, ¬ TransGen t.arena.Operand i i) (htimely : s'.Timely σ actions) :
    ∃ t', s'.run σ actions = some t' ∧ ∃ R', Alongside R' t t' := by
  induction actions generalizing s s' R with
  | nil =>
    cases hrun
    exact ⟨s', rfl, R, h⟩
  | cons a rest ih =>
    obtain ⟨hquiet, hrest⟩ := htimely
    cases a with
    | resolve i =>
      obtain ⟨hi, hq⟩ := hquiet i rfl
      have hact : s'.act σ (.resolve i) = some ⟨(s'.arena.resolve i).2, s'.answers⟩ := if_pos hi
      obtain ⟨t', ht', hdone⟩ := ih (h.resolve hi hq) hrun (hrest _ hact)
      exact ⟨t', Option.bind_eq_some_iff.2 ⟨_, hact, ht'⟩, hdone⟩
    | call c =>
      obtain ⟨s₁, hact, hrun⟩ := Option.bind_eq_some_iff.1 hrun
      obtain ⟨r, hc, rfl⟩ := Option.map_eq_some_iff.1 hact
      -- a cycle would remain to the end
      have hsettles := ((h.proper.1.call hc).run hrun).2
      obtain ⟨r', hc', R', hcall⟩ := h.call hc (hsettles.acyclic hacyclic)
      have hact' : s'.act σ (.call c) = some ⟨r'.2, s'.answers ++ [r'.1]⟩ := Option.map_eq_some_iff.2 ⟨r', hc', rfl⟩
      obtain ⟨t', ht', hdone⟩ := ih hcall hrun (hrest _ hact')
      exact ⟨t', Option.bind_eq_some_iff.2 ⟨_, hact', ht'⟩, hdone⟩

/-- Once all loops are closed, it does not matter to the languages of nodes which nodes have been resolved in
between, as long as no open marker was below them then. The calls are answered by other nodes, but with the same
languages. -/
theorem lang_of_timely (hrun : start.run σ (actions.filter Action.isCall) = some s)
    (hclosed : ∀ i, s.arena.recipe i ≠ .marker none) (hacyclic : ∀ i, ¬ TransGen s.arena.Operand i i)
    (htimely : start.Timely σ actions) : ∃ s', start.run σ actions = some s' ∧ ∃ counterpart : Nat → Nat,
      s'.answers = s.answers.map counterpart ∧
      ∀ i < s.arena.size, s'.arena.lang (counterpart i) = s.arena.lang i := by
  obtain ⟨s', hrun', R, h⟩ := alongside_start.run hrun hacyclic htimely
  have hm := h.twins.mirrors
  choose! counterpart hcounterpart using hm.total
  refine ⟨s', hrun', counterpart, ?_, fun i hi => h.lang_eq hclosed (hcounterpart i hi)⟩
  have hall : List.Forall₂ (fun i' i => i' = counterpart i) s'.answers s.answers :=
    h.answers.flip.imp fun i' i hR => hm.right hR (hcounterpart i (hm.lt hR).1)
  rwa [← List.forall₂_map_right_iff, List.forall₂_eq_eq_eq] at hall

end Run

section Examples

/-- One letter or two of them, and a loop around a letter in front. Resolving the letters adds a node, so the
marker and the loop are other nodes than without that; the marker is resolved while it is open. -/
def letterLoop : List Action :=
  [.call (.edge [⟨97, 98⟩] 1 ∅), .call (.edge [⟨97, 98⟩] 2 ∅), .call (.union 2 3), .resolve 4, .call .marker,
    .call (.edge [⟨97, 98⟩] 5 ∅), .resolve 6, .call (.closeLoop 5 6 4 .plain), .resolve 6]

theorem timely_letterLoop : start.Timely .bytes letterLoop := by
  refine .call fun r hr => ?_
  obtain ⟨-, hr⟩ := Option.ite_none_right_eq_some.1 hr
  cases hr
  refine .call fun r hr => ?_
  obtain ⟨-, hr⟩ := Option.ite_none_right_eq_some.1 hr
  cases hr
  refine .call fun r hr => ?_
  cases hr
  refine .resolve (by decide +kernel) (Arena.quiet_of_closed (Arena.closed_of_lt (by decide +kernel))) ?_
  refine .call fun r hr => ?_
  cases hr
  refine .call fun r hr => ?_
  obtain ⟨-, hr⟩ := Option.ite_none_right_eq_some.1 hr
  cases hr
  refine .resolve (by decide +kernel) (Arena.quiet_of_open (by decide +kernel)) ?_
  refine .call fun r hr => ?_
  obtain ⟨-, hr⟩ := Option.ite_none_right_eq_some.1 hr
  cases hr
  exact .resolve (by decide +kernel) (Arena.quiet_of_closed (Arena.closed_of_lt (by decide +kernel))) trivial

theorem lang_of_timely_letterLoop : ∃ s s', start.run .bytes (letterLoop.filter Action.isCall) = some s ∧
    start.run .bytes letterLoop = some s' ∧ ∃ counterpart : Nat → Nat, s'.answers = s.answers.map counterpart ∧
      ∀ i < s.arena.size, s'.arena.lang (counterpart i) = s.arena.lang i := by
  have hcheck : (start.run .bytes (letterLoop.filter Action.isCall)).any fun s =>
      (∀ i < s.arena.size, s.arena.recipe i ≠ .marker none) &&
        (∀ i < s.arena.size, ∀ j < s.arena.size, s.arena.Operand i j →
          [0, 0, 0, 0, 1, 2, 0, 1].getD j 0 < [0, 0, 0, 0, 1, 2, 0, 1].getD i 0) := by
    decide +kernel
  obtain ⟨s, hs, hcheck⟩ := (Option.any_eq_true ..).1 hcheck
  obtain ⟨hclosed, hfalls⟩ := (Bool.and_eq_true ..).mp hcheck
  have htidy := (alongside_start.proper.1.run hs).1.tidy
  obtain ⟨s', hs', hlang⟩ := lang_of_timely hs (Arena.closed_of_lt (of_decide_eq_true hclosed))
    (htidy.acyclic_of_falls _ (of_decide_eq_true hfalls)) timely_letterLoop
  exact ⟨s, s', hs, hs', hlang⟩

/-- Resolving in between does not matter to the languages of the nodes that are answered. -/
def Unmoved (σ : Alphabet) (actions : List Action) : Prop :=
  ∀ s s', start.run σ (actions.filter Action.isCall) = some s → (∀ i, s.arena.recipe i ≠ .marker none) →
    start.run σ actions = some s' → ∀ place, s'.arena.lang (s'.node place) = s.arena.lang (s.node place)

/-- A loop around a letter, and a node above its marker that is resolved while the loop is open. -/
def untimely : List Action :=
  [.call .marker, .call (.edge [⟨97, 98⟩] 2 ∅), .call (.union 2 3), .resolve 4, .call (.closeLoop 2 4 1 .plain)]

/-- A loop whose tail leads back to the loop without reading; a node of that cycle is resolved in the end. -/
def circular : List Action :=
  [.call .marker, .call (.edge [⟨97, 98⟩] 1 ∅), .call (.union 2 3), .call (.annotate 4 (.singleton ⟨0, .start⟩)),
    .call (.closeLoop 2 1 5 .plain), .resolve 4]

theorem not_unmoved_of_word {place : Nat} {w : List Nat}
    (hcalls : (start.run σ (actions.filter Action.isCall)).any fun s =>
      (∀ i < s.arena.size, s.arena.recipe i ≠ .marker none) && (s.arena.freeze (s.node place)).1.isMatch w)
    (hactions : (start.run σ actions).any fun s => !(s.arena.freeze (s.node place)).1.isMatch w) :
    ¬ Unmoved σ actions := by
  obtain ⟨s, hs, hcalls⟩ := (Option.any_eq_true ..).1 hcalls
  obtain ⟨s', hs', hactions⟩ := (Option.any_eq_true ..).1 hactions
  obtain ⟨hclosed, hw⟩ := (Bool.and_eq_true ..).mp hcalls
  intro hunmoved
  have hsame := hunmoved s s' hs (fun i hr => ?_) hs' place
  · have hw' : w ∈ s'.arena.lang (s'.node place) := hsame ▸ hw
    rw [show (s'.arena.freeze (s'.node place)).1.isMatch w = true from hw'] at hactions
    cases hactions
  · exact Arena.closed_of_lt (of_decide_eq_true hclosed) i hr

/-- Resolving does matter below an open marker, and on a cycle that reads nothing. -/
theorem not_unmoved_untimely_circular : ¬ Unmoved .bytes untimely ∧ ¬ Unmoved .bytes circular := by
  constructor
  · exact @not_unmoved_of_word _ _ 4 [] (by decide +kernel) (by decide +kernel)
  · exact @not_unmoved_of_word _ _ 6 [97] (by decide +kernel) (by decide +kernel)

end Examples

end Session
end Polymatch
