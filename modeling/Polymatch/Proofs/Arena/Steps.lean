import Polymatch.Proofs.Arena.Languages
import Polymatch.Proofs.Arena.Loops
import Polymatch.Proofs.Pattern.Compile

/-! # Arenas that grow step by step

Nodes are derived from nodes of the arena, loops are opened and, inside each other or
one after the other, closed. Every step keeps the arena well-formed, and a marker that
is closed once is not touched again. In the end the language of a loop entry follows
from those of the loop's body, without its marker, and of its tail.
-/

namespace Polymatch.Arena

open Relation (ReflTransGen TransGen)

variable {σ : Alphabet} {g g' g'' h : Arena} {i m body tail : Nat} {policy : LoopPolicy} {w : List Nat}

/-- One operation that makes an arena grow. The tail of a loop must not lead to the marker of the loop
without reading, as it does not where the marker is used inside the body only; both may lead to the markers
of other loops, open or closed. -/
inductive Step (σ : Alphabet) (g : Arena) : Arena → Prop
  | edge {next : Nat} (ranges : List Interval) (marks : Marks) : next < g.size →
    Step σ g (g.edge σ ranges next marks).2
  | annotate {inner : Nat} (marks : Marks) : inner < g.size → Step σ g (g.annotate inner marks).2
  | prefer {winner loser : Nat} : winner < g.size → loser < g.size → Step σ g (g.prefer winner loser).2
  | union {a b : Nat} : a < g.size → b < g.size → Step σ g (g.union a b).2
  | marker : Step σ g g.marker.2
  | closeLoop {m body tail : Nat} (policy : LoopPolicy) : g.recipe m = .marker none → body < g.size →
    tail < g.size → ¬ ReflTransGen g.Operand tail m → Step σ g (g.closeLoop m body tail policy).2

/-- Some operations, one after the other. -/
def Steps (σ : Alphabet) : Arena → Arena → Prop := ReflTransGen (Step σ)

/-- What steps preserve: nodes and the contents of built ones stay, and so do the bodies of loops that are
not open. -/
structure Advances (g g' : Arena) : Prop where
  wellFormed : g'.WellFormed
  settles : Settles g g'
  blank : Blank g → Blank g'
  bodies : ∀ i < g.size, g.recipe i ≠ .marker none → g'.bodies.lookup i = g.bodies.lookup i

theorem Advances.trans (h : Advances g g') (h' : Advances g' g'') : Advances g g'' where
  wellFormed := h'.wellFormed
  settles := h.settles.trans h'.settles
  blank hg := h'.blank (h.blank hg)
  bodies i hi hm := by
    rw [h'.bodies i (Nat.lt_of_lt_of_le hi h.settles.size_le) (by rwa [h.settles.recipe_eq i hi hm]),
      h.bodies i hi hm]

theorem Grown.advances {result : Nat × Arena} (h : Grown g result) : Advances g result.2 :=
  ⟨h.wellFormed, h.grows.settles, h.grows.blank, fun i hi _ => h.grows.bodies i hi⟩

theorem Closed.advances {result : Nat × Arena} (h : Closed g m body tail policy result)
    (hm : g.recipe m = .marker none) : Advances g result.2 :=
  ⟨h.wellFormed, h.settles, h.blank, fun i hi hopen => h.bodies i hi fun him => hopen (him ▸ hm)⟩

theorem advances_marker (hg : g.WellFormed) : Advances g g.marker.2 :=
  ⟨hg.marker, (grows_marker g).settles, blank_marker, fun _ _ _ => rfl⟩

theorem Step.advances (h : Step σ g g') (hg : g.WellFormed) : Advances g g' := by
  cases h with
  | edge ranges marks hn => exact (grown_edge hg hn).advances
  | annotate marks hi => exact (grown_annotate hg hi).advances
  | prefer hw hl => exact (grown_prefer hg hw hl).advances
  | union ha hb => exact (grown_union hg ha hb).advances
  | marker => exact advances_marker hg
  | closeLoop policy hm hbody ht hnot => exact (closed_closeLoop hg hm hbody ht hnot).advances hm

theorem Steps.advances (h : Steps σ g g') (hg : g.WellFormed) : Advances g g' := by
  induction h with
  | refl => exact ⟨hg, .refl g, id, fun _ _ _ => rfl⟩
  | tail _ hstep ih => exact ih.trans (hstep.advances ih.wellFormed)

/-- A node that prefers one node to another reads what the winner reads, and of the loser what the winner
does not stop. -/
theorem reads_prefer_eq (hg : g.WellFormed) (hb : Based g g) {winner loser : Nat} (hw : winner < g.size)
    (hl : loser < g.size) :
    (Behaviour.prefer (behaviour g (fun _ => False) winner) (behaviour g (fun _ => False) loser)).reads =
      g.lang winner + g.besides winner loser := by
  ext w
  rw [Behaviour.mem_reads_prefer, Language.mem_add, besides, lang_eq_reads hg hb hw]
  refine or_congr_right ?_
  rw [and_comm]
  refine and_congr (by rw [lang_eq_reads hg hb hl]) ?_
  exact forall₂_congr fun x _ => (step?_resolve_eq_none_iff hg hb hw).symm

/-- What the entry of a loop and its mandatory round read once all loops are closed: with a plain loop what the
body reads without the marker, or the tail; an extending loop keeps the symbols of the body from the tail,
and a limiting loop those of the tail from the body. -/
theorem lang_closeLoop (hg : Steps σ .new g) (hm : g.recipe m = .marker none) (hbody : body < g.size)
    (ht : tail < g.size) (hnot : ¬ ReflTransGen g.Operand tail m)
    (hh : Steps σ (g.closeLoop m body tail policy).2 h) (hclosed : ∀ i, h.recipe i ≠ .marker none) :
    let once := (g.subtract body m).1
    let entry := (g.closeLoop m body tail policy).1
    (policy = .plain → h.lang entry = h.lang once + h.lang tail) ∧
      (policy = .extending → h.lang entry = h.lang once + h.besides once tail) ∧
      (policy = .limiting → h.lang entry = h.lang tail + h.besides tail once) ∧
      h.lang (h.unroll m) = h.lang body := by
  have hadvances := hg.advances wellFormed_new
  have hloop : Closed g m body tail policy (g.closeLoop m body tail policy) :=
    closed_closeLoop hadvances.wellFormed hm hbody ht hnot
  have hlater := hh.advances hloop.wellFormed
  have hblank : Blank h := hlater.blank (hloop.blank (hadvances.blank fun i hi => absurd (recipe_new i) hi))
  have hbased : Based h h := based_self hlater.wellFormed hclosed hblank
  have hlang : ∀ i < (g.closeLoop m body tail policy).2.size,
      h.lang i = (behaviour h (fun _ => False) i).reads := fun i hi =>
    lang_eq_reads hlater.wellFormed hbased (Nat.lt_of_lt_of_le hi hlater.settles.size_le)
  have honce : (g.subtract body m).1 < h.size := Nat.lt_of_lt_of_le hloop.once_lt hlater.settles.size_le
  have htail : tail < h.size :=
    Nat.lt_of_lt_of_le ht (Nat.le_trans hloop.settles.size_le hlater.settles.size_le)
  have hentry := hlang _ hloop.entry_lt
  rw [hloop.behaviour hlater.settles (pending_none g)] at hentry
  refine ⟨?_, ?_, ?_, ?_⟩
  · rintro rfl
    rw [hentry, Behaviour.choose, Behaviour.reads_either, lang_eq_reads hlater.wellFormed hbased honce,
      lang_eq_reads hlater.wellFormed hbased htail]
  · rintro rfl
    rw [hentry, Behaviour.choose, reads_prefer_eq hlater.wellFormed hbased honce htail]
  · rintro rfl
    rw [hentry, Behaviour.choose, reads_prefer_eq hlater.wellFormed hbased htail honce]
  · -- the marker has been closed, so no later loop takes its body away
    have hmlt : m < (g.closeLoop m body tail policy).2.size :=
      Nat.lt_of_lt_of_le (lt_size_of_recipe (by simp [hm])) hloop.settles.size_le
    have hlookup := hlater.bodies m hmlt (by simp [hloop.marker])
    rw [Arena.unroll, hlookup, hloop.body_eq, Option.getD_some]

/-- An inner loop around a letter, with the marker of an outer loop as its tail; both are open. -/
def nestedMarkers : Arena := (Arena.new.marker.2.marker.2.edge .bytes [⟨97, 98⟩] 3 ∅).2

/-- The inner loop keeps its letter, so it never ends. -/
def innerLoop : Nat × Arena := nestedMarkers.closeLoop 3 4 2 .extending

def outerLoop : Nat × Arena := innerLoop.2.closeLoop 2 innerLoop.1 terminal .plain

theorem lang_closeLoop_innerLoop :
    outerLoop.2.lang innerLoop.1 = outerLoop.2.lang (nestedMarkers.subtract 4 3).1 +
        outerLoop.2.besides (nestedMarkers.subtract 4 3).1 2 ∧
      outerLoop.2.lang (outerLoop.2.unroll 3) = outerLoop.2.lang 4 := by
  have hsteps : Steps .bytes .new nestedMarkers :=
    ((ReflTransGen.refl.tail .marker).tail .marker).tail (.edge _ _ (by decide))
  have hnot : ∀ {g : Arena} {i j : Nat}, i ≠ j → (g.recipe i = .built ∨ g.recipe i = .marker none) →
      ¬ ReflTransGen g.Operand i j := by
    intro g i j hij hr hreach
    have hij' := (Relation.reflTransGen_iff_eq_or_transGen.1 hreach).resolve_left hij.symm
    obtain ⟨k, hk, -⟩ := TransGen.head'_iff.1 hij'
    rcases hr with hr | hr <;> simp [Operand, hr] at hk
  have hinner := hnot (g := nestedMarkers) (i := 2) (j := 3) (by decide) (.inr (by decide +kernel))
  have houter := hnot (g := innerLoop.2) (i := terminal) (j := 2) (by decide) (.inl (by decide +kernel))
  have hlater : Steps .bytes innerLoop.2 outerLoop.2 :=
    .single (.closeLoop .plain (by decide +kernel) (by decide +kernel) (by decide +kernel) houter)
  have hclosed : ∀ i, outerLoop.2.recipe i ≠ .marker none := by
    intro i
    rcases Nat.lt_or_ge i outerLoop.2.size with hlt | hge
    · have hall : ∀ i < outerLoop.2.size, outerLoop.2.recipe i ≠ .marker none := by decide +kernel
      exact hall i hlt
    · simp [recipe_of_le hge]
  obtain ⟨-, hextending, -, hunroll⟩ := lang_closeLoop hsteps (by decide +kernel) (by decide +kernel)
    (by decide +kernel) hinner hlater hclosed
  exact ⟨hextending rfl, hunroll⟩

end Polymatch.Arena
