import Polymatch.Proofs.Interned.Handles

/-! # Sets made one after the other

Operations make sets of ids, or of marks, from sets made before. Carried out on handles they
yield handles of these sets, operation by operation, and so do all of them in a row. Hence
handles tell sets apart exactly as their elements do, whatever operations made them.
-/

namespace Polymatch

open Ranked (rank)
open Movable (number moved)

/-- The set of ids that an operation makes from those made before. -/
def IdOperation.set? (sets : List IdSet) : IdOperation → Option IdSet
  | new ids => some (.ofList ids)
  | empty => some ∅
  | single n => some (.singleton n)
  | range n => some (.range n)
  | intersect a b => do return (← sets[a]?) ∩ (← sets[b]?)
  | union a b => do return (← sets[a]?) ∪ (← sets[b]?)
  | append a b offset => do return (← sets[a]?).append (← sets[b]?) offset
  | shift a offset => do return (← sets[a]?).shift offset
  | subtract a b => do return (← sets[a]?) \ (← sets[b]?)

/-- The set of marks that an operation makes from those made before. -/
def MarkOperation.set? (sets : List Marks) : MarkOperation → Option Marks
  | new marks => some (.ofList marks)
  | empty => some ∅
  | opening slot => some (.opening slot)
  | closing slot inclusive => some (.closing slot inclusive)
  | union a b => do return (← sets[a]?) ∪ (← sets[b]?)
  | append a b offset => do return (← sets[a]?).append (← sets[b]?) offset
  | shift a offset => do return (← sets[a]?).shift offset
  | subtract a b => do return (← sets[a]?) \ (← sets[b]?)

section Ledgers

variable {α Op : Type} [Movable α] {call : Ledger α → Op → Option (Nat × Contents α)}
  {set? : List (SortedSet α) → Op → Option (SortedSet α)} {l l' : Ledger α} {sets final : List (SortedSet α)}
  {s u v : SortedSet α} {ops : List Op} {a b n : Nat} {r : Nat × Contents α}

/-- All sets made by some operations, in order. -/
def makes (set? : List (SortedSet α) → Op → Option (SortedSet α)) (sets : List (SortedSet α)) (ops : List Op) :
    Option (List (SortedSet α)) :=
  ops.foldlM (fun sets op => (set? sets op).map fun s => sets ++ [s]) sets

theorem makes_cons {op : Op} : makes set? sets (op :: ops) = some final ↔
    ∃ s, set? sets op = some s ∧ makes set? (sets ++ [s]) ops = some final := by
  unfold makes
  rw [List.foldlM_cons]
  cases set? sets op with
  | none => simp
  | some s => simp

theorem makes_append {more : List Op} (h : makes set? sets ops = some final) :
    makes set? sets (ops ++ more) = makes set? final more := by
  unfold makes at h ⊢
  rw [List.foldlM_append, h]
  rfl

/-- Sets that have been made stay. -/
theorem prefix_of_makes (h : makes set? sets ops = some final) : sets <+: final := by
  induction ops generalizing sets with
  | nil =>
    cases h
    exact List.prefix_refl _
  | cons op ops ih =>
    obtain ⟨s, -, h⟩ := makes_cons.1 h
    exact (List.prefix_append sets [s]).trans (ih h)

namespace Ledger

/-- The handles stand for the sets, and no content is kept twice. -/
structure Names (l : Ledger α) (sets : List (SortedSet α)) : Prop where
  nodup : l.contents.values.Nodup
  handles : List.Forall₂ l.contents.Names l.handles sets

theorem names_blank : (blank α).Names [] := ⟨List.nodup_nil, .nil⟩

theorem Names.enter (h : l.Names sets) (hr : l.contents.Answers s r) : (l.enter r).Names (sets ++ [s]) where
  nodup := hr.nodup
  handles := List.rel_append (h.handles.imp fun _ _ hnames => hnames.grows hr.grows) (.cons hr.names .nil)

theorem Names.exists_handle (h : l.Names sets) (hs : sets[a]? = some s) :
    ∃ n, l.handles[a]? = some n ∧ l.contents.Names n s := by
  obtain ⟨hlt, rfl⟩ := List.getElem?_eq_some_iff.1 hs
  have hlt' : a < l.handles.length := h.handles.length_eq ▸ hlt
  exact ⟨_, List.getElem?_eq_getElem hlt', h.handles.get hlt' hlt⟩

/-- What makes a set from two others can be done with their handles. -/
theorem Names.exists_call₂ {f : SortedSet α → SortedSet α → SortedSet α} {op : Nat → Nat → Option (Nat × Contents α)}
    (h : l.Names sets) (hs : (do return f (← sets[a]?) (← sets[b]?)) = some s)
    (hop : ∀ {u v n m}, f u v = s → l.contents.Names n u → l.contents.Names m v →
      ∃ r, op n m = some r ∧ l.contents.Answers s r) :
    ∃ r, (do op (← l.handles[a]?) (← l.handles[b]?)) = some r ∧ l.contents.Answers s r := by
  simp only [Option.bind_eq_bind, Option.bind_eq_some_iff, Option.pure_def, Option.some_inj] at hs
  obtain ⟨u, ha, v, hb, heq⟩ := hs
  obtain ⟨n, hn, hu⟩ := h.exists_handle ha
  obtain ⟨m, hm, hv⟩ := h.exists_handle hb
  rw [hn, hm]
  exact hop heq hu hv

/-- What makes a set from another one can be done with its handle. -/
theorem Names.exists_call {f : SortedSet α → SortedSet α} {op : Nat → Option (Nat × Contents α)}
    (h : l.Names sets) (hs : (do return f (← sets[a]?)) = some s)
    (hop : ∀ {u n}, f u = s → l.contents.Names n u → ∃ r, op n = some r ∧ l.contents.Answers s r) :
    ∃ r, (do op (← l.handles[a]?)) = some r ∧ l.contents.Answers s r := by
  simp only [Option.bind_eq_bind, Option.bind_eq_some_iff, Option.pure_def, Option.some_inj] at hs
  obtain ⟨u, ha, heq⟩ := hs
  obtain ⟨n, hn, hu⟩ := h.exists_handle ha
  rw [hn]
  exact hop heq hu

theorem Names.exists_set (h : l.Names sets) (hn : n ∈ l.handles) : ∃ s ∈ sets, l.contents.Names n s := by
  obtain ⟨i, hlt, rfl⟩ := List.mem_iff_getElem.1 hn
  have hlt' : i < sets.length := h.handles.length_eq ▸ hlt
  exact ⟨_, List.getElem_mem hlt', h.handles.get hlt hlt'⟩

/-- The handles of a ledger are as good as sets: their contents are the lists of the sets, they are equal if
these are, and asking for inclusion or disjointness gives the answer for the sets. -/
structure Agrees (l : Ledger α) (sets : List (SortedSet α)) : Prop where
  contents_eq : l.handles.map l.contents.content = sets.map (·.toList)
  ascending : ∀ a ∈ l.handles, (l.contents.content a).Pairwise (rank · < rank ·)
  eq_iff : ∀ a ∈ l.handles, ∀ b ∈ l.handles, a = b ↔ l.contents.content a = l.contents.content b
  covers_iff : ∀ a ∈ l.handles, ∀ b ∈ l.handles,
    l.contents.covers a b = true ↔ ∀ x ∈ l.contents.content b, x ∈ l.contents.content a
  isApart_iff : ∀ a ∈ l.handles, ∀ b ∈ l.handles,
    l.contents.isApart a b = true ↔ ∀ x ∈ l.contents.content a, x ∉ l.contents.content b

theorem Names.agrees (h : l.Names sets) : l.Agrees sets where
  contents_eq := by
    have hcontents : List.Forall₂ (fun n (s : SortedSet α) => l.contents.content n = s.toList) l.handles sets :=
      h.handles.imp fun _ _ hnames => hnames.content_eq
    have hmaps := List.forall₂_map_left_iff.2 (List.forall₂_map_right_iff.2 hcontents)
    rwa [List.forall₂_eq_eq_eq] at hmaps
  ascending a ha := by
    obtain ⟨s, -, hs⟩ := h.exists_set ha
    rw [hs.content_eq]
    exact s.ascending
  eq_iff a ha b hb := by
    obtain ⟨s, -, hs⟩ := h.exists_set ha
    obtain ⟨u, -, hu⟩ := h.exists_set hb
    rw [hs.eq_iff h.nodup hu, hs.content_eq, hu.content_eq]
    exact ⟨congrArg SortedSet.toList, SortedSet.ext_toList⟩
  covers_iff a ha b hb := by
    obtain ⟨s, -, hs⟩ := h.exists_set ha
    obtain ⟨u, -, hu⟩ := h.exists_set hb
    rw [Contents.covers_iff h.nodup hs hu, hs.content_eq, hu.content_eq]
    exact Iff.rfl
  isApart_iff a ha b hb := by
    obtain ⟨s, -, hs⟩ := h.exists_set ha
    obtain ⟨u, -, hu⟩ := h.exists_set hb
    rw [Contents.isApart_iff hs hu, hs.content_eq, hu.content_eq]
    exact Iff.rfl

end Ledger

/-- Carried out on handles, an operation answers the handle of the set that it makes, as long as numbers
have 32 bits. -/
def Follows (call : Ledger α → Op → Option (Nat × Contents α))
    (set? : List (SortedSet α) → Op → Option (SortedSet α)) : Prop :=
  ∀ l sets op s, l.Names sets → set? sets op = some s → s.Fits → ∃ r, call l op = some r ∧ l.contents.Answers s r

theorem exists_run (hfollows : Follows call set?) (h : l.Names sets) (hmakes : makes set? sets ops = some final)
    (hfits : ∀ s ∈ final, s.Fits) : ∃ l', Ledger.run call l ops = some l' ∧ l'.Names final := by
  induction ops generalizing l sets with
  | nil =>
    cases hmakes
    exact ⟨l, rfl, h⟩
  | cons op ops ih =>
    obtain ⟨s, hs, hmakes⟩ := makes_cons.1 hmakes
    have hmem : s ∈ final := (prefix_of_makes hmakes).subset (List.mem_append_right sets (List.mem_singleton_self s))
    obtain ⟨r, hr, hanswers⟩ := hfollows l sets op s h hs (hfits s hmem)
    obtain ⟨l', hl', hnames⟩ := ih (h.enter hanswers) hmakes
    refine ⟨l', ?_, hnames⟩
    unfold Ledger.run at hl' ⊢
    rw [List.foldlM_cons, hr]
    exact hl'

/-- If a set is added to another one and taken away again, the handle is the old one exactly if the two have
nothing in common. -/
theorem exists_run_restores {more : List Op} (hfollows : Follows call set?) (hmakes : makes set? [] ops = some sets)
    (hmore : makes set? sets more = some (sets ++ [s ∪ u, u, (s ∪ u) \ u])) (hs : sets[a]? = some s)
    (hfits : ∀ v ∈ sets, v.Fits) (hu : u.Fits) :
    ∃ l, Ledger.run call (.blank α) (ops ++ more) = some l ∧
      (l.handles[sets.length + 2]? = l.handles[a]? ↔ ∀ x ∈ s, x ∉ u) := by
  have hlt : a < sets.length := (List.getElem?_eq_some_iff.1 hs).1
  have hunion : (s ∪ u).Fits := by
    intro x hx
    rcases SortedSet.mem_union.1 hx with hx | hx
    · exact hfits s (List.mem_of_getElem? hs) x hx
    · exact hu x hx
  have hall : ∀ v ∈ sets ++ [s ∪ u, u, (s ∪ u) \ u], v.Fits := by
    refine List.forall_mem_append.2 ⟨hfits, ?_⟩
    simp only [List.forall_mem_cons]
    exact ⟨hunion, hu, fun x hx => hunion x (SortedSet.mem_sdiff.1 hx).1, List.forall_mem_nil _⟩
  obtain ⟨l, hl, hnames⟩ := exists_run hfollows Ledger.names_blank ((makes_append hmakes).trans hmore) hall
  refine ⟨l, hl, ?_⟩
  obtain ⟨n, hn, hold⟩ := @Ledger.Names.exists_handle _ _ _ _ _ a hnames ((List.getElem?_append_left hlt).trans hs)
  obtain ⟨m, hm, hnew⟩ := @Ledger.Names.exists_handle _ _ _ _ ((s ∪ u) \ u) (sets.length + 2) hnames (by simp)
  rw [hm, hn, Option.some_inj, hnew.eq_iff hnames.nodup hold]
  exact SortedSet.union_sdiff_eq_iff

end Ledgers

section Kinds

open Contents

theorem IdSet.append_zero (s u : IdSet) : s.append u 0 = s ∪ u := congrArg (s ∪ ·) (SortedSet.movedUp_zero u)

theorem Marks.append_zero (s u : Marks) : s.append u 0 = s ∪ u := congrArg (s ∪ ·) (SortedSet.movedUp_zero u)

theorem follows_ids : Follows IdOperation.call IdOperation.set? := by
  intro l sets op s h hs hfits
  have hn := h.nodup
  cases op with
  | new ids =>
    cases hs
    exact ⟨_, rfl, answers_make hn ids⟩
  | empty =>
    cases hs
    exact ⟨_, rfl, answers_keep hn ∅⟩
  | single n =>
    cases hs
    exact ⟨_, rfl, answers_keep hn (.singleton n)⟩
  | range n =>
    cases hs
    exact ⟨_, rfl, answers_keep hn (IdSet.range n)⟩
  | intersect a b =>
    refine h.exists_call₂ hs ?_
    rintro u v n m rfl hu hv
    exact ⟨_, rfl, answers_intersect hn hu hv⟩
  | union a b =>
    refine h.exists_call₂ hs ?_
    rintro u v n m rfl hu hv
    rw [← IdSet.append_zero] at hfits ⊢
    exact exists_appendIds hn hu hv (SortedSet.fits_right hfits)
  | append a b offset =>
    refine h.exists_call₂ (f := (IdSet.append · · offset)) hs ?_
    rintro u v n m rfl hu hv
    exact exists_appendIds hn hu hv (SortedSet.fits_right hfits)
  | shift a offset =>
    refine h.exists_call hs ?_
    rintro u n rfl hu
    exact exists_shift hn hu hfits
  | subtract a b =>
    refine h.exists_call₂ hs ?_
    rintro u v n m rfl hu hv
    exact ⟨_, rfl, answers_subtractIds hn hu hv⟩

theorem follows_marks : Follows MarkOperation.call MarkOperation.set? := by
  intro l sets op s h hs hfits
  have hn := h.nodup
  cases op with
  | new marks =>
    cases hs
    exact ⟨_, rfl, answers_make hn marks⟩
  | empty =>
    cases hs
    exact ⟨_, rfl, answers_keep hn ∅⟩
  | opening slot =>
    cases hs
    exact ⟨_, rfl, answers_keep hn (Marks.opening slot)⟩
  | closing slot inclusive =>
    cases hs
    exact ⟨_, rfl, answers_keep hn (Marks.closing slot inclusive)⟩
  | union a b =>
    refine h.exists_call₂ hs ?_
    rintro u v n m rfl hu hv
    rw [← Marks.append_zero] at hfits ⊢
    exact exists_appendMarks hn hu hv (SortedSet.fits_right hfits)
  | append a b offset =>
    refine h.exists_call₂ (f := (Marks.append · · offset)) hs ?_
    rintro u v n m rfl hu hv
    exact exists_appendMarks hn hu hv (SortedSet.fits_right hfits)
  | shift a offset =>
    refine h.exists_call hs ?_
    rintro u n rfl hu
    exact exists_shift hn hu hfits
  | subtract a b =>
    refine h.exists_call₂ hs ?_
    rintro u v n m rfl hu hv
    exact ⟨_, rfl, answers_subtractMarks hn hu hv⟩

/-- What handles are good for: whatever sets some operations make, the handles made by the same operations agree
with them, as long as numbers have 32 bits. If a set is then moved up, added to another one and taken away again,
the handle of the other one is back exactly if the two have nothing in common. -/
structure Interns {α Op : Type} [Movable α] (call : Ledger α → Op → Option (Nat × Contents α))
    (set? : List (SortedSet α) → Op → Option (SortedSet α)) (append : Nat → Nat → Nat → Op) (shift : Nat → Nat → Op)
    (subtract : Nat → Nat → Op) (shifted : SortedSet α → Nat → SortedSet α) : Prop where
  agrees : ∀ {ops sets}, makes set? [] ops = some sets → (∀ s ∈ sets, s.Fits) →
    ∃ l, Ledger.run call (.blank α) ops = some l ∧ l.Agrees sets
  restores : ∀ {ops sets} (a b offset) {s u}, makes set? [] ops = some sets → (∀ s ∈ sets, s.Fits) →
    sets[a]? = some s → sets[b]? = some u → (shifted u offset).Fits →
      ∃ l, Ledger.run call (.blank α)
          (ops ++ [append a b offset, shift b offset, subtract sets.length (sets.length + 1)]) = some l ∧
        (l.handles[sets.length + 2]? = l.handles[a]? ↔ ∀ x ∈ s, x ∉ shifted u offset)

theorem interns_of_follows {α Op : Type} [Movable α] {call : Ledger α → Op → Option (Nat × Contents α)}
    {set? : List (SortedSet α) → Op → Option (SortedSet α)} {append : Nat → Nat → Nat → Op} {shift : Nat → Nat → Op}
    {subtract : Nat → Nat → Op} {shifted : SortedSet α → Nat → SortedSet α} (hfollows : Follows call set?)
    (happend : ∀ {sets : List (SortedSet α)} {a b s u} (offset : Nat), sets[a]? = some s → sets[b]? = some u →
      set? sets (append a b offset) = some (s ∪ shifted u offset))
    (hshift : ∀ {sets : List (SortedSet α)} {a s} (offset : Nat), sets[a]? = some s →
      set? sets (shift a offset) = some (shifted s offset))
    (hsubtract : ∀ {sets : List (SortedSet α)} {a b s u}, sets[a]? = some s → sets[b]? = some u →
      set? sets (subtract a b) = some (s \ u)) : Interns call set? append shift subtract shifted where
  agrees hmakes hfits := by
    obtain ⟨l, hl, hnames⟩ := exists_run hfollows Ledger.names_blank hmakes hfits
    exact ⟨l, hl, hnames.agrees⟩
  restores {ops sets} a b offset {s u} hmakes hfits hs hu hshifted := by
    refine exists_run_restores hfollows hmakes ?_ hs hfits hshifted
    have hu' : (sets ++ [s ∪ shifted u offset])[b]? = some u := by
      rw [List.getElem?_append_left (List.getElem?_eq_some_iff.1 hu).1, hu]
    have hback : set? (sets ++ [s ∪ shifted u offset] ++ [shifted u offset]) (subtract sets.length (sets.length + 1)) =
        some ((s ∪ shifted u offset) \ shifted u offset) := hsubtract (by simp) (by simp)
    have hend : makes set? (sets ++ [s ∪ shifted u offset] ++ [shifted u offset] ++
        [(s ∪ shifted u offset) \ shifted u offset]) [] =
          some (sets ++ [s ∪ shifted u offset, shifted u offset, (s ∪ shifted u offset) \ shifted u offset]) := by
      simp [makes]
    exact makes_cons.2 ⟨_, happend offset hs hu, makes_cons.2 ⟨_, hshift offset hu', makes_cons.2 ⟨_, hback, hend⟩⟩⟩

/-- The operations on sets do with the elements what they are named for, and sets with the same elements are
equal. -/
structure LawfulSets {α : Type} [Movable α] (shifted : SortedSet α → Nat → SortedSet α)
    (append : SortedSet α → SortedSet α → Nat → SortedSet α) : Prop where
  mem_union : ∀ (s u : SortedSet α) x, x ∈ s ∪ u ↔ x ∈ s ∨ x ∈ u
  mem_inter : ∀ (s u : SortedSet α) x, x ∈ s ∩ u ↔ x ∈ s ∧ x ∈ u
  mem_sdiff : ∀ (s u : SortedSet α) x, x ∈ s \ u ↔ x ∈ s ∧ x ∉ u
  mem_shifted : ∀ s offset x, x ∈ shifted s offset ↔ ∃ y ∈ s, moved offset y = x
  append_eq : ∀ s u offset, append s u offset = s ∪ shifted u offset
  includes_iff : ∀ s u : SortedSet α, s.includes u = true ↔ ∀ x ∈ u, x ∈ s
  disjoint_iff : ∀ s u : SortedSet α, s.disjoint u = true ↔ ∀ x ∈ s, x ∉ u
  eq_iff : ∀ s u : SortedSet α, s = u ↔ ∀ x, x ∈ s ↔ x ∈ u

theorem lawfulSets {α : Type} [Movable α] :
    @LawfulSets α _ SortedSet.movedUp fun s u offset => s ∪ u.movedUp offset where
  mem_union _ _ _ := SortedSet.mem_union
  mem_inter _ _ _ := SortedSet.mem_inter
  mem_sdiff _ _ _ := SortedSet.mem_sdiff
  mem_shifted _ _ _ := SortedSet.mem_movedUp
  append_eq _ _ _ := rfl
  includes_iff _ _ := SortedSet.includes_iff
  disjoint_iff _ _ := SortedSet.disjoint_iff
  eq_iff _ _ := ⟨fun heq _ => heq ▸ Iff.rfl, SortedSet.ext_mem⟩

/-- Handles of sets of ids and of sets of marks do for the sets themselves. -/
theorem interns_sets :
    (Interns IdOperation.call IdOperation.set? .append .shift .subtract IdSet.shift ∧
      LawfulSets IdSet.shift IdSet.append) ∧
    Interns MarkOperation.call MarkOperation.set? .append .shift .subtract Marks.shift ∧
      LawfulSets Marks.shift Marks.append := by
  refine ⟨⟨interns_of_follows follows_ids ?_ ?_ ?_, lawfulSets⟩, interns_of_follows follows_marks ?_ ?_ ?_, lawfulSets⟩
  · intro sets a b s u offset hs hu
    simp only [IdOperation.set?, hs, hu]
    rfl
  · intro sets a s offset hs
    simp only [IdOperation.set?, hs]
    rfl
  · intro sets a b s u hs hu
    simp only [IdOperation.set?, hs, hu]
    rfl
  · intro sets a b s u offset hs hu
    simp only [MarkOperation.set?, hs, hu]
    rfl
  · intro sets a s offset hs
    simp only [MarkOperation.set?, hs]
    rfl
  · intro sets a b s u hs hu
    simp only [MarkOperation.set?, hs, hu]
    rfl

/-- Sets of ids of which some have equal elements, and operations with and without a shortcut. -/
def idSteps : List IdOperation :=
  [.new [3, 1, 2, 3], .range 4, .intersect 0 1, .append 1 0 5, .subtract 3 1, .shift 0 5, .union 1 2, .intersect 1 4]

/-- An opening and a closing mark, on their own and together. -/
def markSteps : List MarkOperation :=
  [.opening 0, .closing 0 true, .union 1 0, .new [⟨0, .endInclusive⟩, ⟨0, .start⟩], .append 0 2 7]

theorem interns_sets_steps :
    (∃ l, Ledger.run IdOperation.call (.blank Nat) idSteps = some l ∧
      l.handles.map l.contents.content =
        [[1, 2, 3], [0, 1, 2, 3], [1, 2, 3], [0, 1, 2, 3, 6, 7, 8], [6, 7, 8], [6, 7, 8], [0, 1, 2, 3], []] ∧
      ∀ a ∈ l.handles, ∀ b ∈ l.handles, a = b ↔ l.contents.content a = l.contents.content b) ∧
    (∃ l, Ledger.run IdOperation.call (.blank Nat) (idSteps ++ [.append 1 0 5, .shift 0 5, .subtract 8 9]) = some l ∧
      l.handles[10]? = l.handles[1]?) ∧
    ∃ l, Ledger.run MarkOperation.call (.blank Mark) (markSteps ++ [.append 0 2 0, .shift 2 0, .subtract 5 6]) =
        some l ∧
      l.handles[7]? ≠ l.handles[0]? := by
  obtain ⟨⟨hids, -⟩, hmarks, -⟩ := interns_sets
  have hidSets : makes IdOperation.set? [] idSteps = some ((makes IdOperation.set? [] idSteps).getD []) := rfl
  have hidFits : ∀ s ∈ (makes IdOperation.set? [] idSteps).getD [], s.Fits := by
    decide
  have hlists : ((makes IdOperation.set? [] idSteps).getD []).map (·.toList) =
      [[1, 2, 3], [0, 1, 2, 3], [1, 2, 3], [0, 1, 2, 3, 6, 7, 8], [6, 7, 8], [6, 7, 8], [0, 1, 2, 3], []] := by
    decide
  have hmarkSets : makes MarkOperation.set? [] markSteps = some ((makes MarkOperation.set? [] markSteps).getD []) := rfl
  have hmarkFits : ∀ s ∈ (makes MarkOperation.set? [] markSteps).getD [], s.Fits := by
    decide
  have hapart : ∀ x ∈ IdSet.range 4, x ∉ IdSet.shift (.ofList [3, 1, 2, 3]) 5 := SortedSet.disjoint_iff.1 (by decide)
  have htouch : ¬ ∀ x ∈ Marks.opening 0, x ∉ Marks.shift (Marks.closing 0 true ∪ Marks.opening 0) 0 :=
    mt SortedSet.disjoint_iff.2 (by decide)
  refine ⟨?_, ?_, ?_⟩
  · obtain ⟨l, hl, hagrees⟩ := hids.agrees hidSets hidFits
    exact ⟨l, hl, hagrees.contents_eq.trans hlists, hagrees.eq_iff⟩
  · obtain ⟨l, hl, hiff⟩ := hids.restores 1 0 5 hidSets hidFits rfl rfl (by decide)
    exact ⟨l, hl, hiff.2 hapart⟩
  · obtain ⟨l, hl, hiff⟩ := hmarks.restores 0 2 0 hmarkSets hmarkFits rfl rfl (by decide)
    exact ⟨l, hl, mt hiff.1 htouch⟩

end Kinds

end Polymatch
