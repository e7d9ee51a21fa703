import Mathlib.Data.List.MinMax
import Polymatch.Unicode.Case

/-! # Case mappings of case mappings

A letter of one case is mostly mapped to a letter of the other case that is mapped back.
The letters from which two mappings lead to a third letter are listed here, and so are the
letters outside of ASCII that are mapped into it. That the lists are complete is found by
comparing the runs of the tables: a run with every run that some image of it may lie in.
-/

namespace Polymatch.Unicode.Case

variable {r s : Run} {runs block : List Run} {u p q n : Nat}

/-- The letter is mapped to another one, in lower or in upper case. -/
def Maps (u p : Nat) : Prop := lower? u = some p ∨ upper? u = some p

instance (u p : Nat) : Decidable (Maps u p) := inferInstanceAs (Decidable (_ ∨ _))

theorem exists_run_of_lookup? (h : lookup? runs u = some p) :
    ∃ r ∈ runs, r.holds u = true ∧ r.apply u = p := by
  obtain ⟨r, hr, hp⟩ := Option.map_eq_some_iff.1 h
  have hu := List.find?_some hr
  exact ⟨r, List.mem_of_find?_eq_some hr, hu, hp⟩

theorem Maps.exists_run (h : Maps u p) : ∃ r ∈ lower ++ upper, r.holds u = true ∧ r.apply u = p := by
  rcases h with h | h
  · obtain ⟨r, hr, h⟩ := exists_run_of_lookup? h
    exact ⟨r, List.mem_append_left _ hr, h⟩
  · obtain ⟨r, hr, h⟩ := exists_run_of_lookup? h
    exact ⟨r, List.mem_append_right _ hr, h⟩

namespace Run

/-- The last image of the run. -/
def lastImage (r : Run) : Nat := r.target + (r.last - r.first)

theorem bounds_of_holds (h : r.holds u = true) : r.first ≤ u ∧ u ≤ r.last ∧ (u - r.first) % r.step = 0 := by
  simpa only [holds, Bool.and_eq_true, decide_eq_true_eq, beq_iff_eq, and_assoc] using h

theorem image_bounds (h : r.holds u = true) : r.target ≤ r.apply u ∧ r.apply u ≤ r.lastImage := by
  have := bounds_of_holds h
  simp only [apply, lastImage]
  omega

/-- The code points of the run. -/
def units (r : Run) : List Nat := (List.range' r.first (r.last + 1 - r.first)).filter r.holds

theorem mem_units (h : r.holds u = true) : u ∈ r.units := by
  have hbounds := bounds_of_holds h
  refine List.mem_filter.2 ⟨List.mem_range'_1.2 ⟨hbounds.1, ?_⟩, h⟩
  omega

/-- The other run maps back whatever image of the run lies in it. -/
def undoneBy (r s : Run) : Bool := Nat.beq (r.target + s.target) (r.first + s.first)

theorem apply_apply_of_undoneBy (h : r.undoneBy s = true) (hu : r.holds u = true)
    (hp : s.holds (r.apply u) = true) : s.apply (r.apply u) = u := by
  have hfirst := (bounds_of_holds hu).1
  have htarget := (bounds_of_holds hp).1
  simp only [undoneBy, Nat.beq_eq] at h
  simp only [apply] at htarget ⊢
  omega

/-- Both runs pass over every second code point, the images of one where the other has none. -/
def interleaved (r s : Run) : Bool :=
  Nat.beq r.step 2 && Nat.beq s.step 2 && Nat.beq ((r.target + s.first) % 2) 1

theorem not_holds_of_interleaved (h : r.interleaved s = true) (hu : r.holds u = true) :
    ¬ s.holds (r.apply u) = true := by
  intro hp
  have hu := bounds_of_holds hu
  have hp := bounds_of_holds hp
  simp only [interleaved, Bool.and_eq_true, Nat.beq_eq] at h
  obtain ⟨⟨hr, hs⟩, hodd⟩ := h
  rw [hr] at hu
  rw [hs] at hp
  simp only [apply] at hp
  omega

/-- No run of the block has an image of the run. -/
def misses (r : Run) (block : List Run) : Bool :=
  Nat.blt ((block.map (·.last)).foldr max 0) r.target ||
    Nat.blt r.lastImage ((block.map (·.first)).foldr min 0x110000)

theorem not_holds_of_misses (h : r.misses block = true) (hs : s ∈ block) (hu : r.holds u = true) :
    ¬ s.holds (r.apply u) = true := by
  intro hp
  have hp := bounds_of_holds hp
  have himage := image_bounds hu
  simp only [misses, Bool.or_eq_true, Nat.blt_eq] at h
  have hlast : s.last ≤ (block.map (·.last)).foldr max 0 :=
    List.le_max_of_le' _ (List.mem_map_of_mem hs) (Nat.le_refl _)
  have hfirst : (block.map (·.first)).foldr min 0x110000 ≤ s.first :=
    List.min_le_of_le' _ (List.mem_map_of_mem hs) (Nat.le_refl _)
  omega

end Run

/-- Letters with the letter that two mappings lead to, where that is neither the letter nor an image
of it. -/
def distantCases : List (Nat × Nat) :=
  [(0xB5, 0x3BC), (0x131, 0x69), (0x17F, 0x73), (0x345, 0x3B9), (0x3C2, 0x3C3), (0x3D0, 0x3B2),
   (0x3D1, 0x3B8), (0x3D5, 0x3C6), (0x3D6, 0x3C0), (0x3F0, 0x3BA), (0x3F1, 0x3C1), (0x3F4, 0x398),
   (0x3F5, 0x3B5), (0x1C80, 0x432), (0x1C81, 0x434), (0x1C82, 0x43E), (0x1C83, 0x441), (0x1C84, 0x442),
   (0x1C85, 0x442), (0x1C86, 0x44A), (0x1C87, 0x463), (0x1C88, 0xA64B), (0x1E9B, 0x1E61),
   (0x1FBE, 0x3B9), (0x2126, 0x3A9), (0x212A, 0x4B), (0x212B, 0xC5)]

theorem lt_of_distant {d : Nat × Nat} (h : d ∈ distantCases) : d.2 < 0x10000 := by
  have hall : ∀ d ∈ distantCases, d.2 < 0x10000 := by decide
  exact hall d h

/-- The two runs lead to no letters but those that are listed. -/
def Run.near (r s : Run) : Bool :=
  r.undoneBy s || r.interleaved s ||
    r.units.all fun u =>
      !s.holds (r.apply u) || distantCases.contains (u, s.apply (r.apply u)) || decide (Maps u (s.apply (r.apply u)))

/-- Some runs in blocks of twelve. -/
def blocks : Nat → List Run → List (List Run)
  | 0, runs => [runs]
  | n + 1, runs => runs.take 12 :: blocks n (runs.drop 12)

theorem flatten_blocks (n : Nat) (runs : List Run) : (blocks n runs).flatten = runs := by
  induction n generalizing runs with
  | zero => exact List.append_nil runs
  | succ n ih => rw [blocks, List.flatten_cons, ih, List.take_append_drop]

/-- The runs of both tables. -/
def tables : List (List Run) := blocks 15 lower ++ blocks 16 upper

theorem flatten_tables : tables.flatten = lower ++ upper := by
  rw [tables, List.flatten_append, flatten_blocks, flatten_blocks]

/-- Whatever two runs an image of an image comes from, the runs lead to no letter that is not listed. -/
theorem all_near : (tables.flatten.all fun r => tables.all fun block =>
    r.misses block || block.all fun s => Nat.blt s.last r.target || Nat.blt r.lastImage s.first || r.near s) = true := by
  decide +kernel

theorem near_of_holds (hr : r ∈ lower ++ upper) (hs : s ∈ lower ++ upper) (hu : r.holds u = true)
    (hp : s.holds (r.apply u) = true) : r.near s = true := by
  have hall := List.all_eq_true.1 all_near r (flatten_tables ▸ hr)
  obtain ⟨block, hblock, hs⟩ := List.mem_flatten.1 (flatten_tables ▸ hs)
  have hcompared := List.all_eq_true.1 hall block hblock
  rcases Bool.or_eq_true_iff.1 hcompared with hmiss | hcompared
  · exact absurd hp (Run.not_holds_of_misses hmiss hs hu)
  · have hnear := List.all_eq_true.1 hcompared s hs
    have himage := Run.image_bounds hu
    have hbounds := Run.bounds_of_holds hp
    simp only [Bool.or_eq_true, Nat.blt_eq] at hnear
    rcases hnear with (hlt | hlt) | hnear
    · omega
    · omega
    · exact hnear

/-- The images of an image are the letter itself, its own images and what is listed. -/
theorem Maps.trans (hp : Maps u p) (hq : Maps p q) : q = u ∨ Maps u q ∨ (u, q) ∈ distantCases := by
  obtain ⟨r, hr, hu, rfl⟩ := hp.exists_run
  obtain ⟨s, hs, hp, rfl⟩ := hq.exists_run
  have hnear := near_of_holds hr hs hu hp
  simp only [Run.near, Bool.or_eq_true] at hnear
  rcases hnear with (hback | hskip) | hlisted
  · exact .inl (Run.apply_apply_of_undoneBy hback hu hp)
  · exact absurd hp (Run.not_holds_of_interleaved hskip hu)
  · have hunit := List.all_eq_true.1 hlisted u (Run.mem_units hu)
    simp only [hp, Bool.not_true, Bool.false_or, Bool.or_eq_true, List.contains_iff_mem, decide_eq_true_eq] at hunit
    exact .inr hunit.symm

/-- Two mappings lead from a listed letter to the listed one, and the last of them can be undone. -/
theorem exists_between {d : Nat × Nat} (h : d ∈ distantCases) :
    ∃ p < 0x10000, Maps d.1 p ∧ Maps p d.2 ∧ Maps d.2 p := by
  have hall : (distantCases.all fun d => ((lower? d.1).toList ++ (upper? d.1).toList).any fun p =>
      Nat.blt p 0x10000 && decide (Maps p d.2) && decide (Maps d.2 p)) = true := by
    decide +kernel
  obtain ⟨p, hp, hback⟩ := List.any_eq_true.1 (List.all_eq_true.1 hall d h)
  rw [List.mem_append, Option.mem_toList, Option.mem_toList] at hp
  simp only [Bool.and_eq_true, Nat.blt_eq, decide_eq_true_eq] at hback
  exact ⟨p, hback.1.1, hp, hback.1.2, hback.2⟩

/-! ## ASCII -/

/-- Letters outside of ASCII with their images in ASCII. -/
def asciiCases : List (Nat × Nat) := [(0x131, 0x49), (0x17F, 0x53), (0x212A, 0x6B)]

theorem maps_ascii (h : Maps u p) (hp : p < 0x80) :
    (0x41 ≤ u ∧ u ≤ 0x5A ∧ p = u + 0x20) ∨ (0x61 ≤ u ∧ u ≤ 0x7A ∧ u = p + 0x20) ∨ (u, p) ∈ asciiCases := by
  have hall : ((lower ++ upper).all fun r => Nat.ble 0x80 r.target || r == ⟨0x41, 0x5A, 1, 0x61⟩ ||
      r == ⟨0x61, 0x7A, 1, 0x41⟩ || r.units.all fun u => asciiCases.contains (u, r.apply u)) = true := by
    decide +kernel
  obtain ⟨r, hr, hu, rfl⟩ := h.exists_run
  have himage := Run.image_bounds hu
  have hbounds := Run.bounds_of_holds hu
  have hrun := List.all_eq_true.1 hall r hr
  simp only [Bool.or_eq_true, Nat.ble_eq, beq_iff_eq] at hrun
  rcases hrun with ((hle | rfl) | rfl) | hlisted
  · omega
  · refine .inl ⟨hbounds.1, hbounds.2.1, ?_⟩
    dsimp only [Run.apply] at hbounds ⊢
    omega
  · refine .inr (.inl ⟨hbounds.1, hbounds.2.1, ?_⟩)
    dsimp only [Run.apply] at hbounds ⊢
    omega
  · exact .inr (.inr (List.contains_iff_mem.1 (List.all_eq_true.1 hlisted u (Run.mem_units hu))))

theorem maps_letter (hlo : 0x61 ≤ n) (hhi : n ≤ 0x7A) : Maps n (n - 0x20) ∧ Maps (n - 0x20) n := by
  have hall : ∀ k < 26, Maps (0x61 + k) (0x41 + k) ∧ Maps (0x41 + k) (0x61 + k) := by decide +kernel
  have h := hall (n - 0x61) (by omega)
  rwa [show 0x61 + (n - 0x61) = n by omega, show 0x41 + (n - 0x61) = n - 0x20 by omega] at h

end Polymatch.Unicode.Case
