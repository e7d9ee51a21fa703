import Polymatch.Proofs.Arena.Realize
import Polymatch.Proofs.Pattern.Layouts

/-! # Languages of nodes

The language of a node consists of the inputs that the automaton frozen from it
matches. Freezing does not change what the nodes do that were there before, so these
are the inputs that the behaviour of the node reads, and what the arena says of the
behaviours of nodes it says of their languages.
-/

namespace Polymatch.Arena

variable {g₀ g g' h : Arena} {blocked stops stops' : Nat → Prop} {i j l x : Nat} {marks : Marks} {w : List Nat}

section Growth

/-- Growing adds no path to a node that was there before, and takes none away. -/
theorem Grows.path_iff (hgrow : Grows g g') (hg : g.WellFormed)
    (hstops : ∀ w < g.size, stops' w ↔ stops w) (hi : i < g.size) :
    Path g' blocked stops' i l marks ↔ Path g blocked stops i l marks := by
  constructor
  · intro hp
    refine hp.transfer (fun i hi => (hgrow.recipe_eq i hi).symm) (fun i j hi hop => ?_)
      (fun w hw => (hstops w hw).2) hi
    exact hg.operand_lt i j ((hgrow.operand_iff hi).1 hop)
  · intro hp
    exact hp.transfer hgrow.recipe_eq (fun i j _ => hg.operand_lt i j) (fun w hw => (hstops w hw).1) hi

variable (hgrow : Grows g g') (hg : g.WellFormed) (hclosed : ∀ i, g.recipe i ≠ .marker none)
include hgrow hg hclosed

/-- Without open markers, all leaves are built, and their contents stay. -/
theorem Grows.content_leaf (hi : i < g.size) (hp : Path g blocked stops i l marks) :
    g'.content? l = g.content? l := by
  obtain ⟨hr, -⟩ := hp.isLeaf.resolve_right (hclosed l)
  refine hgrow.content_eq l hr (hg.built l ?_ hr)
  rcases Relation.reflTransGen_iff_eq_or_transGen.1 hp.derives with rfl | h
  · exact hi
  · obtain ⟨k, -, hk⟩ := Relation.TransGen.tail'_iff.1 h
    exact hg.operand_lt k l hk

theorem Grows.binds_iff (hi : i < g.size) :
    Binds g' (fun _ => False) i x ↔ Binds g (fun _ => False) i x := by
  simp only [Binds, Reaches, hgrow.path_iff hg (fun _ _ => Iff.rfl) hi]
  refine exists₂_congr fun l k => and_congr_right fun hreaches => ?_
  obtain ⟨marks, hp⟩ := hreaches
  rw [linkAt?, linkAt?, hgrow.content_leaf hg hclosed hi hp]

theorem Grows.path_stops_iff (on? : Option Nat) (hi : i < g.size) :
    Path g' (fun _ => False) (Stops g' (fun _ => False) on?) i l marks ↔
      Path g (fun _ => False) (Stops g (fun _ => False) on?) i l marks := by
  refine hgrow.path_iff hg (fun w hw => ?_) hi
  cases on? with
  | none => exact Iff.rfl
  | some x => exact hgrow.binds_iff hg hclosed hw

theorem Grows.ends_iff (hi : i < g.size) :
    Ends g' (fun _ => False) i marks ↔ Ends g (fun _ => False) i marks := by
  simp only [Ends, hgrow.path_stops_iff hg hclosed none hi]
  refine exists₃_congr fun l before n => and_congr_right fun hp => ?_
  rw [hgrow.content_leaf hg hclosed hi hp]

theorem Grows.leads_iff (hi : i < g.size) :
    Leads g' (fun _ => False) i x marks j ↔ Leads g (fun _ => False) i x marks j := by
  simp only [Leads, hgrow.path_stops_iff hg hclosed (some x) hi]
  refine exists₃_congr fun l before k => and_congr_right fun hp => ?_
  rw [linkAt?, linkAt?, hgrow.content_leaf hg hclosed hi hp]

omit hgrow hclosed in
theorem lt_of_leads (hl : Leads g blocked i x marks j) : j < g.size := by
  obtain ⟨l, before, k, -, hk, -, rfl⟩ := hl
  obtain ⟨n, hn, hk⟩ := Option.bind_eq_some_iff.1 hk
  obtain ⟨e, he, -, rfl⟩ := EdgeMap.link?_eq_some.1 hk
  exact ((hg.content l n hn).edge e he).next_lt

theorem Grows.spells_iff {t : Trace} (hi : i < g.size) :
    Spells g' (fun _ => False) i t marks ↔ Spells g (fun _ => False) i t marks := by
  induction t generalizing i with
  | nil => exact hgrow.ends_iff hg hclosed hi
  | cons step t ih =>
    obtain ⟨x, stepMarks⟩ := step
    simp only [Spells, hgrow.leads_iff hg hclosed hi]
    exact exists_congr fun j => and_congr_right fun hl => ih (lt_of_leads hg hl)

end Growth

theorem Frozen.isMatch_iff {start : Nat} {a : Automaton} {R : Nat → Nat → Prop} (hf : Frozen h start a R) :
    a.isMatch w = true ↔ w ∈ (behaviour h (fun _ => False) start).reads := by
  obtain ⟨t, ht, hc⟩ := hf.start
  rw [Automaton.isMatch_iff_of_patterns hf.patterns, Automaton.mem_accepts, hf.patterns,
    and_iff_right Nat.zero_lt_one, hf.realizes.walk?_iff ht, Behaviour.mem_reads]
  simp only [hc.spells, exists_eq_left]
  exact Iff.rfl

/-- The inputs that the automaton frozen from a node matches. -/
def lang (g : Arena) (i : Nat) : Language Nat := {w | (g.freeze i).1.isMatch w = true}

/-- A node's language is what its behaviour reads. -/
theorem lang_eq_reads (h₀ : g₀.WellFormed) (hb : Based g₀ g) (hi : i < g.size) :
    g.lang i = (behaviour g (fun _ => False) i).reads := by
  obtain ⟨hresolves, R, hfrozen⟩ := frozen_of_based h₀ hb hi
  ext w
  refine hfrozen.isMatch_iff.trans ?_
  rw [Behaviour.mem_reads, Behaviour.mem_reads]
  simp only [behaviour, hresolves.grows.spells_iff hb.wellFormed hb.closed hi]

/-- Some nodes have been resolved or frozen, one after the other. -/
def Worked : Arena → Arena → Prop :=
  Relation.ReflTransGen fun g g' => ∃ i < g.size, g' = (g.resolve i).2 ∨ g' = (g.freeze i).2

theorem Worked.based (h : Worked g g') (h₀ : g₀.WellFormed) (hb : Based g₀ g) : Based g₀ g' := by
  induction h with
  | refl => exact hb
  | tail _ hstep ih =>
    obtain ⟨i, hi, rfl | rfl⟩ := hstep
    · exact (resolved_resolve h₀ ih hi).resolves.based ih
    · exact (frozen_of_based h₀ ih hi).1.based ih

/-- Whatever has been resolved and frozen before, the language of a node stays the same. -/
theorem Worked.lang_eq (h : Worked g g') (hg : g.WellFormed) (hb : Based g g) (hi : i < g.size) :
    g'.lang i = g.lang i := by
  have hb' := h.based hg hb
  rw [lang_eq_reads hg hb' (Nat.lt_of_lt_of_le hi hb'.grows.size_le), lang_eq_reads hg hb hi]
  ext w
  rw [Behaviour.mem_reads, Behaviour.mem_reads]
  simp only [behaviour, hb'.grows.spells_iff hg hb.closed hi]

/-- The resolved content of a node has an edge on the ordinals that the node binds. -/
theorem step?_resolve_eq_none_iff (h₀ : g₀.WellFormed) (hb : Based g₀ g) (hi : i < g.size) :
    (g.resolve i).1.step? x = none ↔ ¬ Binds g (fun _ => False) i x := by
  have hr := resolved_resolve h₀ hb hi
  have hg' := hr.resolves.grounded.wellFormed
  have hfollows := (hr.describes _ hg' (.refl _)).follows x
  rw [← hr.resolves.grows.binds_iff hb.wellFormed hb.closed hi, binds_iff hg']
  simp only [exists_eq_left] at hfollows
  rw [EdgeMap.link?] at hfollows
  rw [Node.step?]
  cases hx : (g.resolve i).1.edges.find? x with
  | none =>
    rw [hx] at hfollows
    refine iff_of_true rfl ?_
    rintro ⟨marks, j, hl⟩
    exact hfollows marks j hl
  | some e =>
    rw [hx] at hfollows
    exact iff_of_false (Option.some_ne_none e) fun hnot => hnot hfollows.1

/-- The inputs of the loser that the winner does not stop: empty ones, and those whose first symbol has no
edge in the resolved content of the winner. -/
def besides (g : Arena) (winner loser : Nat) : Language Nat :=
  {w | w ∈ g.lang loser ∧ ∀ x ∈ w.head?, (g.resolve winner).1.step? x = none}

end Polymatch.Arena
