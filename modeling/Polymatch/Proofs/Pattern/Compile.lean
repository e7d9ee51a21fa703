import Polymatch.Proofs.Arena.Attach
import Polymatch.Proofs.Arena.Realize

/-! # Compiled patterns

The automaton of a pattern has a single pattern id. It accepts what the behaviour
of the pattern spells in front of the end of the input, and as long as it is not
ambiguous, its run bears the marks of every way to spell the input.
-/

namespace Polymatch

namespace Arena

variable {g h : Arena}

/-- The terminal node ends the input. -/
theorem behaviour_terminal (hg : g.WellFormed) (hs : Settles g h) :
    behaviour h (fun _ => False) terminal = .done := by
  have hr : h.recipe terminal = .built :=
    (hs.recipe_eq terminal hg.terminal_lt (by simp [hg.recipe_terminal])).trans hg.recipe_terminal
  have hc : h.content? terminal = some { Node.dead with accept := .singleton 0 } :=
    (hs.content_eq terminal hg.recipe_terminal (by simp [hg.content_terminal])).trans hg.content_terminal
  rw [behaviour_of_content hr (by decide) id hc]
  ext x e
  · exact Iff.rfl
  · exact iff_of_false (fun ⟨_, hk⟩ => nomatch hk) id
  · cases x with
    | nil => exact and_congr_left' (iff_of_true rfl rfl)
    | cons a t => exact iff_of_false (fun ⟨_, hk, _⟩ => nomatch hk) fun ⟨ht, _⟩ => nomatch ht

end Arena

namespace Pattern

open Arena

variable {σ : Alphabet} {layout : Layout} {p : Pattern} {a : Automaton}

/-- The behaviour of a whole pattern. -/
def meaning (σ : Alphabet) (layout : Layout) (p : Pattern) : Behaviour :=
  p.behave σ layout ∅ .done .done

/-- What is promised of the automaton of a pattern. -/
structure Compiled (σ : Alphabet) (layout : Layout) (p : Pattern) (a : Automaton) : Prop where
  wellFormed : a.WellFormed
  patterns : a.patterns = 1
  captures : layout.size ≤ a.captures
  accepts : ∀ w, 0 ∈ a.accepts w ↔ ∃ t e, t.map Prod.fst = w ∧ (p.meaning σ layout).spells t e
  trace : a.ambiguous = false → ∀ t e, (p.meaning σ layout).spells t e →
    ∃ s, a.trace? 0 a.start (t.map Prod.fst) = some (t, s) ∧ (a.node s).exit = e

theorem frozen_withCaptures {h : Arena} {start : Nat} {R : Nat → Nat → Prop}
    (hf : Frozen h start a R) (captures : Nat) : Frozen h start (a.withCaptures captures) R :=
  ⟨hf.wellFormed.withCaptures captures, hf.patterns, hf.exit_eq, ⟨hf.realizes.stuck, hf.realizes.link,
    hf.realizes.accept, hf.realizes.marks, hf.realizes.exit⟩, hf.start⟩

/-- Compiling a pattern freezes a node that behaves like the pattern. -/
theorem exists_frozen (ho : p.overlap? σ = none) (layout : Layout) : ∃ h start R,
    Frozen h start (p.automaton σ layout) R ∧ behaviour h (fun _ => False) start = p.meaning σ layout ∧
      layout.size ≤ (p.automaton σ layout).captures := by
  have hattach : Attaches (p.behave σ layout ∅) fun tail g => p.attach σ layout tail ∅ g :=
    attaches_attach ∅ ho
  have hgrown := hattach.grown wellFormed_new wellFormed_new.terminal_lt
  have hbehaviour := fun h hs => @Attaches.behaviour _ _ hattach .new terminal h (fun _ => False)
    wellFormed_new wellFormed_new.terminal_lt hs (pending_none _)
  simp only [automaton]
  generalize p.attach σ layout terminal ∅ .new = r at hgrown hbehaviour
  obtain ⟨start, g⟩ := r
  obtain ⟨hresolves, R, hfrozen⟩ := frozen_of_based hgrown.wellFormed hgrown.based hgrown.lt
  have hs := hresolves.grows.settles
  have hmeaning : behaviour (g.freeze start).2 (fun _ => False) start = p.meaning σ layout := by
    rw [hbehaviour _ hs, behaviour_terminal wellFormed_new (hgrown.grows.trans_settles hs), meaning]
  exact ⟨_, _, _, frozen_withCaptures hfrozen layout.size, hmeaning, Nat.le_max_right ..⟩

/-- A pattern without overlapping classes compiles to an automaton of its behaviour. -/
theorem compiled_automaton (ho : p.overlap? σ = none) (layout : Layout) :
    Compiled σ layout p (p.automaton σ layout) := by
  obtain ⟨h, start, R, hfrozen, hmeaning, hcaptures⟩ := exists_frozen ho layout
  generalize p.automaton σ layout = a at *
  obtain ⟨t, ht, hc⟩ := hfrozen.start
  have hspells : ∀ {tr e}, Spells h (fun _ => False) t tr e ↔ (p.meaning σ layout).spells tr e := by
    intro tr e
    rw [hc.spells, exists_eq_left, ← hmeaning]
    rfl
  refine ⟨hfrozen.wellFormed, hfrozen.patterns, hcaptures, fun w => ?_, fun ha tr e hsp => ?_⟩
  · rw [Automaton.mem_accepts, hfrozen.patterns, and_iff_right Nat.zero_lt_one,
      hfrozen.realizes.walk?_iff ht]
    simp only [hspells]
  · obtain ⟨s, htr, -, hexit⟩ := hfrozen.realizes.trace? ha ht (hspells.2 hsp)
    exact ⟨s, htr, hexit⟩

end Pattern

end Polymatch
