import Polymatch.Proofs.Merge.Sides

/-! # Merging alternate patterns

The merge of two automata runs the patterns of both sides at once and keeps them
apart. Every input is accepted by the patterns of the left side that accept it
and by those of the right side, whose ids are moved up.
-/

namespace Polymatch.Automaton

variable {a b m : Automaton} {options : MergeOptions}

/-- How the merge of patterns stands to its sides. -/
structure MergedPatterns (a b : Automaton) (options : MergeOptions) (m : Automaton)
    (pairs : Array Discovered) : Prop where
  merged : (a.patternProduct b options).Merged pairs m
  wellFormed : m.WellFormed
  patterns_le : (a.patternProduct b options).idOffset + b.patterns ≤ m.patterns
  le_patterns : m.patterns ≤ max 1 (max a.patterns ((a.patternProduct b options).idOffset + b.patterns))
  captures_le : (a.patternProduct b options).captureOffset + b.captures ≤ m.captures

theorem run_of_mergePattern_ok (h : a.mergePattern b options = .ok m) : ∃ merged,
    (a.patternProduct b options).run = .ok merged ∧
      m = (merged.withPatterns ((a.patternProduct b options).idOffset + b.patterns)).withCaptures
        ((a.patternProduct b options).captureOffset + b.captures) := by
  obtain ⟨merged, hrun, hm⟩ := bind_eq_ok.1 h
  exact ⟨merged, hrun, (Except.ok.inj hm).symm⟩

theorem run_of_mergePattern_error {err : BuildError} (h : a.mergePattern b options = .error err) :
    (a.patternProduct b options).run = .error err := by
  rcases bind_eq_error.1 h with hrun | ⟨merged, -, hm⟩
  · exact hrun
  · exact nomatch hm

theorem exists_mergedPatterns (ha : a.WellFormed) (hb : b.WellFormed)
    (h : a.mergePattern b options = .ok m) : ∃ pairs, MergedPatterns a b options m pairs := by
  obtain ⟨merged, hrun, rfl⟩ := run_of_mergePattern_ok h
  obtain ⟨hwf, hpatterns, pairs, hp⟩ := Product.run_merged ha hb hrun
  exact ⟨pairs, ⟨hp.toNumbering, hp.start_eq, hp.size_eq, hp.unflagged⟩, (hwf.withPatterns _).withCaptures _,
    Nat.le_max_right .., Nat.max_le.2 ⟨hpatterns, Nat.le_trans (Nat.le_max_right ..) (Nat.le_max_right ..)⟩,
    Nat.le_max_right ..⟩

namespace MergedPatterns

variable {pairs : Array Discovered}

theorem embeds_left (h : MergedPatterns a b options m pairs)
    (hid : a.patterns ≤ (a.patternProduct b options).idOffset) :
    a.Embeds m 0 (Product.Merged.LeftOf pairs) :=
  h.merged.embeds_left hid (Nat.le_trans hid (Nat.le_trans (Nat.le_add_right ..) h.patterns_le))

theorem embeds_right (h : MergedPatterns a b options m pairs) (ha : a.WellFormed)
    (hid : a.patterns ≤ (a.patternProduct b options).idOffset) :
    b.Embeds m (a.patternProduct b options).idOffset (Product.Merged.RightOf pairs) :=
  h.merged.embeds_right ha hid (Nat.add_comm .. ▸ h.patterns_le)

theorem carries_left (h : MergedPatterns a b options m pairs)
    (hslot : a.captures ≤ (a.patternProduct b options).captureOffset) :
    a.Carries m 0 (Product.Merged.LeftOf pairs) :=
  h.merged.carries_left hslot (Nat.le_trans hslot (Nat.le_trans (Nat.le_add_right ..) h.captures_le))

theorem carries_right (h : MergedPatterns a b options m pairs) (ha : a.WellFormed)
    (hslot : a.captures ≤ (a.patternProduct b options).captureOffset) :
    b.Carries m (a.patternProduct b options).captureOffset (Product.Merged.RightOf pairs) :=
  h.merged.carries_right ha hslot (Nat.add_comm .. ▸ h.captures_le)

end MergedPatterns

theorem lt_of_mem_accepts {input : List Nat} {i : Nat} (h : i ∈ a.accepts input) : i < a.patterns :=
  (mem_accepts.1 h).1

end Polymatch.Automaton
