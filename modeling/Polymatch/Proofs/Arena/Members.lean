import Polymatch.Proofs.Arena.Paths

/-! # Canonical nodes and members

The node that a chain of closed markers stands for has the paths of the whole
chain, and the members of a node together have the paths of the node. Both stay
true when the arena grows and open markers are closed.
-/

namespace Polymatch.Arena

open Relation (ReflTransGen)

variable {g g' h : Arena} {blocked stops : Nat → Prop} {i j l : Nat} {marks : Marks}

/-- Only open markers are blocked. -/
def Pending (g : Arena) (blocked : Nat → Prop) : Prop := ∀ b, blocked b → g.recipe b = .marker none

theorem pending_none (g : Arena) : Pending g fun _ => False := fun _ hb => hb.elim

theorem Pending.lt (hb : Pending g blocked) (h : blocked i) : i < g.size :=
  lt_size_of_recipe (by simp [hb i h])

theorem Pending.grows (hb : Pending g blocked) (hg : Grows g g') : Pending g' blocked := by
  intro b h
  have hr := hb b h
  rw [hg.recipe_eq b (lt_size_of_recipe (by simp [hr])), hr]

theorem Pending.not_blocked (hb : Pending g blocked) (hi : g.recipe i ≠ .marker none) : ¬ blocked i :=
  fun h => hi (hb i h)

theorem path_nothing (hg : g.WellFormed) (hs : Settles g h) : ¬ Path h blocked stops nothing l marks := by
  have hr : h.recipe nothing = .built :=
    (hs.recipe_eq nothing hg.nothing_lt (by simp [hg.recipe_nothing])).trans hg.recipe_nothing
  rw [path_built hr]
  exact fun hp => hp.2.1 rfl

theorem follow_entry {fuel : Nat} (hr : g.recipe i = .marker (some j)) :
    g.follow (fuel + 1) i = g.follow fuel j := by
  rw [follow, hr]

theorem follow_of_ne {fuel : Nat} (hr : ∀ e, g.recipe i ≠ .marker (some e)) : g.follow fuel i = i := by
  cases fuel with
  | zero => rfl
  | succ fuel =>
    rw [follow]
    split
    · rename_i e he
      exact absurd he (hr e)
    · rfl

/-- The fuel for following markers does not matter as long as there is enough. -/
theorem follow_eq (hg : g.Founded) {a b : Nat} (ha : g.rank i ≤ a) (hb : g.rank i ≤ b) :
    g.follow a i = g.follow b i := by
  induction a generalizing b i with
  | zero =>
    have hne : ∀ e, g.recipe i ≠ .marker (some e) := fun e he => by
      have := hg.rank_lt (operand_entry he)
      omega
    rw [follow_of_ne hne, follow_of_ne hne]
  | succ a ih =>
    by_cases hne : ∀ e, g.recipe i ≠ .marker (some e)
    · rw [follow_of_ne hne, follow_of_ne hne]
    · obtain ⟨e, he⟩ : ∃ e, g.recipe i = .marker (some e) := by simpa using hne
      have hlt := hg.rank_lt (operand_entry he)
      cases b with
      | zero => omega
      | succ b =>
        rw [follow_entry he, follow_entry he]
        exact ih (by omega) (by omega)

theorem canonical_entry (hg : g.Founded) (hr : g.recipe i = .marker (some j)) :
    g.canonical i = g.canonical j := by
  have hi := hg.rank_lt_size i
  have hj := hg.rank_lt_size j
  rw [canonical, canonical, ← follow_entry hr]
  exact follow_eq hg (Nat.le_of_lt hi) (by omega)

theorem canonical_of_ne (hr : ∀ e, g.recipe i ≠ .marker (some e)) : g.canonical i = i :=
  follow_of_ne hr

/-- What holds of a closed marker if it holds of its entry, and of every other node, holds of all. -/
@[elab_as_elim]
theorem canonical_induct (hg : g.Founded) {motive : Nat → Prop}
    (entry : ∀ i e, g.recipe i = .marker (some e) → motive e → motive i)
    (other : ∀ i, (∀ e, g.recipe i ≠ .marker (some e)) → motive i) (i : Nat) : motive i := by
  induction i using hg.induct with
  | step i ih =>
    by_cases hne : ∀ e, g.recipe i ≠ .marker (some e)
    · exact other i hne
    · obtain ⟨e, he⟩ : ∃ e, g.recipe i = .marker (some e) := by simpa using hne
      exact entry i e he (ih e (operand_entry he))

theorem canonical_ne_entry (hg : g.Founded) (i e : Nat) :
    g.recipe (g.canonical i) ≠ .marker (some e) := by
  induction i using canonical_induct hg with
  | entry i j hr ih => rwa [canonical_entry hg hr]
  | other i hne =>
    rw [canonical_of_ne hne]
    exact hne e

theorem canonical_lt (hg : g.WellFormed) (hi : i < g.size) : g.canonical i < g.size := by
  induction i using canonical_induct hg.founded with
  | entry i j hr ih =>
    rw [canonical_entry hg.founded hr]
    exact ih (hg.operand_lt i j (operand_entry hr))
  | other i hne => rwa [canonical_of_ne hne]

theorem derives_canonical (hg : g.Founded) (i : Nat) : ReflTransGen g.Operand i (g.canonical i) := by
  induction i using canonical_induct hg with
  | entry i j hr ih =>
    rw [canonical_entry hg hr]
    exact .head (operand_entry hr) ih
  | other i hne => rw [canonical_of_ne hne]

theorem rank_canonical_le (hg : g.Founded) (i : Nat) : g.rank (g.canonical i) ≤ g.rank i := by
  induction i using canonical_induct hg with
  | entry i j hr ih =>
    rw [canonical_entry hg hr]
    exact Nat.le_of_lt (Nat.lt_of_le_of_lt ih (hg.rank_lt (operand_entry hr)))
  | other i hne => rw [canonical_of_ne hne]

theorem path_canonical (hg : g.WellFormed) (hs : Settles g h) (hb : Pending g blocked) (i : Nat) :
    Path h blocked stops (g.canonical i) l marks ↔ Path h blocked stops i l marks := by
  induction i using canonical_induct hg.founded with
  | entry i j hr ih =>
    rw [canonical_entry hg.founded hr, ih, path_entry (hs.recipe_of hr (by simp) (by simp)),
      and_iff_right (hb.not_blocked (by simp [hr]))]
  | other i hne => rw [canonical_of_ne hne]

theorem mem_foldl_union {f : Nat → IdSet} {nodes : List Nat} {s : IdSet} :
    i ∈ nodes.foldl (fun s m => s ∪ f m) s ↔ i ∈ s ∨ ∃ m ∈ nodes, i ∈ f m := by
  induction nodes generalizing s with
  | nil => simp
  | cons m nodes ih => simp [ih, or_assoc]

/-- With enough fuel, the members of a node have its paths. -/
theorem path_membersWithin (hg : g.WellFormed) (hs : Settles g h) (hb : Pending g blocked) {fuel : Nat}
    (hfuel : g.rank i < fuel) : Path h blocked stops i l marks ↔
      ∃ m ∈ g.membersWithin fuel i, Path h blocked stops m l marks := by
  induction fuel generalizing i with
  | zero => omega
  | succ fuel ih =>
    rw [← path_canonical hg hs hb, membersWithin]
    have hle := rank_canonical_le hg.founded i
    generalize g.canonical i = c at hle
    split
    · rename_i hc
      simp [hc, path_nothing hg hs]
    · split
      · rename_i members hr
        rw [path_union (hs.recipe_of hr (by simp) (by simp)),
          and_iff_right (hb.not_blocked (by simp [hr]))]
        split
        · have hlt : ∀ m ∈ members, g.rank m < fuel := by
            intro m hm
            have := hg.rank_lt (operand_member hr hm)
            omega
          simp only [mem_foldl_union, SortedSet.not_mem_empty, false_or]
          constructor
          · rintro ⟨m, hm, hp⟩
            obtain ⟨k, hk, hp⟩ := (ih (hlt m hm)).1 hp
            exact ⟨k, ⟨m, hm, hk⟩, hp⟩
          · rintro ⟨k, ⟨m, hm, hk⟩, hp⟩
            exact ⟨m, hm, (ih (hlt m hm)).2 ⟨k, hk, hp⟩⟩
        · exact Iff.rfl
      · simp

theorem path_members (hg : g.WellFormed) (hs : Settles g h) (hb : Pending g blocked) (i : Nat) :
    Path h blocked stops i l marks ↔ ∃ m ∈ g.members i, Path h blocked stops m l marks :=
  path_membersWithin hg hs hb (Nat.lt_succ_of_lt (hg.rank_lt_size i))

theorem membersWithin_lt (hg : g.WellFormed) {fuel : Nat} (hi : i < g.size)
    (hj : j ∈ g.membersWithin fuel i) : j < g.size := by
  induction fuel generalizing i with
  | zero => exact (SortedSet.not_mem_empty _ hj).elim
  | succ fuel ih =>
    rw [membersWithin] at hj
    have hc := canonical_lt hg hi
    generalize g.canonical i = c at hc hj
    split at hj
    · exact (SortedSet.not_mem_empty _ hj).elim
    · split at hj
      · rename_i members hr
        have hlt : ∀ m ∈ members, m < g.size := fun m hm =>
          hg.operand_lt c m (operand_member hr hm)
        split at hj
        · simp only [mem_foldl_union, SortedSet.not_mem_empty, false_or] at hj
          obtain ⟨m, hm, hj⟩ := hj
          exact ih (hlt m hm) hj
        · exact hlt j hj
      · obtain rfl := SortedSet.mem_singleton.1 hj
        exact hc

theorem members_lt (hg : g.WellFormed) (hi : i < g.size) (hj : j ∈ g.members i) : j < g.size :=
  membersWithin_lt hg hi hj

/-- The members of a node are no unions. -/
theorem membersWithin_atomic (hg : g.WellFormed) {fuel : Nat} (hj : j ∈ g.membersWithin fuel i) :
    g.Atomic j := by
  induction fuel generalizing i with
  | zero => exact (SortedSet.not_mem_empty _ hj).elim
  | succ fuel ih =>
    rw [membersWithin] at hj
    generalize g.canonical i = c at hj
    split at hj
    · exact (SortedSet.not_mem_empty _ hj).elim
    · split at hj
      · rename_i members hr
        split at hj
        · simp only [mem_foldl_union, SortedSet.not_mem_empty, false_or] at hj
          obtain ⟨m, -, hj⟩ := hj
          exact ih hj
        · exact hg.flat c members hr j hj
      · rename_i hne
        obtain rfl := SortedSet.mem_singleton.1 hj
        exact hne

theorem members_atomic (hg : g.WellFormed) (hj : j ∈ g.members i) : g.Atomic j :=
  membersWithin_atomic hg hj

/-- An open marker is its own member. -/
theorem members_open (hg : g.WellFormed) (hr : g.recipe i = .marker none) : g.members i = .singleton i := by
  have hc : g.canonical i = i := canonical_of_ne (by simp [hr])
  have hn : i ≠ nothing := by
    rintro rfl
    simp [hg.recipe_nothing] at hr
  simp [members, membersWithin, hc, hn, hr]

end Polymatch.Arena
