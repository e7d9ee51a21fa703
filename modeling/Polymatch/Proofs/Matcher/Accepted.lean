import Mathlib
import Polymatch.Proofs.Arena.Checked
import Polymatch.Proofs.Conventional.Numbering
import Polymatch.Proofs.Matcher.Alternatives
import Polymatch.Proofs.Pattern.Assembly
import Polymatch.Regex

/-! # Accepted patterns

Compiling relies on properties of patterns that it does not check. The patterns that come
from texts and from expressions have them, whatever the input, so they compile as soon as
they are there.
-/

namespace Polymatch

variable {p : Pattern} {text : String} {options : Pattern.ParseOptions} {σ : Alphabet}

namespace Pattern

/-- The patterns of texts in either syntax; literals of an expression are runs of bytes. -/
inductive Accepted : Pattern → Prop
  | text {text : String} {options : ParseOptions} {p : Pattern} : parse text options = .ok p → Accepted p
  | expression {e : Conventional.Expr} {p : Pattern} : e.HoldsBytes → e.toPattern = .ok p → Accepted p

/-- What compiling relies on. -/
structure WellFormed (p : Pattern) : Prop where
  /-- Classes ascend with gaps between their intervals, none of which is empty. -/
  classes : ∀ ranges ∈ p.classes, Interval.Canonical Text.unitLimit ranges
  counts : ∀ counts ∈ p.countings, counts ≠ [] ∧ counts.Pairwise (· < ·)
  labels : p.labels.Pairwise (· < ·)
  /-- The numbers in labels lie below any bound on the groups directly inside another or outside of all,
  so they fit 16 bits as long as there are at most 65535 of these. -/
  bound : ∀ n, (∀ body ∈ p :: p.bodies, body.width ≤ n) → ∀ label ∈ p.labels, ∀ k ∈ label, k < n

/-- The layout gives slots in the order of declaration, and no map made on the way to the automaton
binds an ordinal twice. -/
structure Compiles (p : Pattern) : Prop where
  layout : p.layout = .ok ⟨p.labels, 0⟩
  slots : ∀ i < p.labels.length, Layout.slot? ⟨p.labels, 0⟩ (i + 1) = some i
  compile : ∀ σ, ∃ a, p.compile σ = .ok a ∧ Checked.compile p σ = .ok a

theorem Accepted.exists_orderly (h : p.Accepted) : ∃ next, p.Orderly [] 0 next := by
  cases h with
  | text h => exact exists_orderly_of_parse h
  | expression hbytes h => exact Conventional.Expr.exists_orderly_of_toPattern hbytes h

theorem Accepted.wellFormed (h : p.Accepted) : p.WellFormed := by
  obtain ⟨next, h⟩ := h.exists_orderly
  have hregular := regular_of_orderly p h
  refine ⟨hregular.classes, hregular.counts, hregular.labels.ascending, fun n hwidth label hl k hk => ?_⟩
  obtain ⟨hp, hbodies⟩ := List.forall_mem_cons.1 hwidth
  have hnext : next ≤ n := by
    have := hregular.width
    omega
  exact hregular.bound n hnext hbodies label hl label rfl k hk

namespace WellFormed

theorem nodup (h : p.WellFormed) : p.labels.Nodup := by
  refine h.labels.imp ?_
  rintro label _ hlt rfl
  exact List.lt_irrefl label hlt

theorem overlap?_eq_none (h : p.WellFormed) (σ : Alphabet) : p.overlap? σ = none :=
  overlap?_of_disjoint σ p fun ranges hr => (h.classes ranges hr).apart

theorem compiles (h : p.WellFormed) : p.Compiles where
  layout := Layout.ofLabels_of_nodup h.nodup
  slots _ := Layout.slot?_of_ascending h.labels
  compile σ := by
    have hcompile := compile_of_nodup (h.overlap?_eq_none σ) h.nodup
    exact ⟨_, hcompile, (Checked.compile_eq p σ).trans hcompile⟩

end WellFormed

end Pattern

namespace Regex

theorem ofPattern_eq (text : String) (p : Pattern) :
    ofPattern text p = (MatcherBuilder.new.buildAll .units [p]).map fun m => ⟨text, m⟩ := by
  rw [ofPattern, MatcherBuilder.buildAll, List.foldlM_cons]
  cases (MatcherBuilder.new : MatcherBuilder Captured).pattern .units p (fun _ captured => captured) with
  | error e => rfl
  | ok b => rfl

theorem exists_ofPattern (text : String) (h : p.WellFormed) : ∃ r, ofPattern text p = .ok r := by
  rw [ofPattern_eq, MatcherBuilder.buildAll_of_nodup (h.overlap?_eq_none .units) h.nodup]
  exact ⟨_, rfl⟩

theorem exists_ofText_iff : (∃ r, ofText text options = .ok r) ↔ ∃ p, Pattern.parse text options = .ok p := by
  rw [ofText]
  cases hp : Pattern.parse text options with
  | error fault => simp [bind, Except.bind, Except.mapError]
  | ok p =>
    obtain ⟨r, hr⟩ := exists_ofPattern text (Pattern.Accepted.text hp).wellFormed
    exact ⟨fun _ => ⟨p, rfl⟩, fun _ => ⟨r, hr⟩⟩

end Regex

/-- Patterns that come from texts and expressions satisfy all that compiling relies on, and compile. So
a text has a regex exactly if it can be parsed. -/
theorem compiles_of_accepted :
    (∀ p : Pattern, p.Accepted → p.WellFormed ∧ p.Compiles) ∧
      ∀ text options, (∃ r, Regex.ofText text options = .ok r) ↔ ∃ p, Pattern.parse text options = .ok p :=
  ⟨fun _ h => ⟨h.wellFormed, h.wellFormed.compiles⟩, fun _ _ => Regex.exists_ofText_iff⟩

/-- A group with counts in any order inside another one, or a negated class in a group of its own. -/
def nestedGroups : String := "((k){2,1,2})|([^bx-z])"

/-- A group inside another one, in front of a class that reaches beyond the basic plane. -/
def groupsInFront : Conventional.Expr :=
  .concat [.capture 1 (.repetition 0 (some 2) true (.capture 2 (.literal [0xC3, 0xA9]))),
    .scalarClass [⟨0x61, 0x7B⟩, ⟨0xFFFF, 0x10002⟩]]

theorem compiles_of_accepted_nestedGroups :
    ∃ p q, Pattern.parse nestedGroups ⟨true⟩ = .ok p ∧ groupsInFront.toPattern = .ok q ∧
      p.WellFormed ∧ p.Compiles ∧ q.WellFormed ∧ q.Compiles ∧
      ∃ r, Regex.ofText nestedGroups ⟨true⟩ = .ok r := by
  have hp : Pattern.parse nestedGroups ⟨true⟩ = .ok (.select [
      .group [0] (.counted (.group [0, 0] (.symbols [⟨75, 76⟩, ⟨107, 108⟩])) [1, 2]),
      .group [1] (.symbols [⟨0, 66⟩, ⟨67, 88⟩, ⟨91, 98⟩, ⟨99, 120⟩, ⟨123, 0x10000⟩])]) := by
    cbv
  have hq : groupsInFront.toPattern = .ok (.sequence [
      .group [0] (.counted (.group [0, 0] (.symbol 0xE9)) [0, 1, 2]),
      .symbols [⟨0x61, 0x7B⟩, ⟨0xFFFF, 0x10000⟩]]) := by
    cbv
  have hbytes : groupsInFront.HoldsBytes := by
    simp only [groupsInFront, Conventional.Expr.HoldsBytes, Conventional.Expr.AllHoldBytes]
    decide
  obtain ⟨haccepted, hregex⟩ := compiles_of_accepted
  exact ⟨_, _, hp, hq, (haccepted _ (.text hp)).1, (haccepted _ (.text hp)).2,
    (haccepted _ (.expression hbytes hq)).1, (haccepted _ (.expression hbytes hq)).2,
    (hregex nestedGroups ⟨true⟩).2 ⟨_, hp⟩⟩

end Polymatch
