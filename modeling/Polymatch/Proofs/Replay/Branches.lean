import Polymatch.Proofs.Replay.Emit

/-! # Replayed branches

A replay finds groups for exactly the inputs that the pattern stands for if no loop
is exclusive. Among branches it decides for the first one that stands for the
input in this sense, and finds occurrences of the groups of that branch only.
-/

namespace Polymatch

namespace Program

variable {p : Program} {code : Array Instr} {opens : Nat → Prop} {L : Language Nat} {r : Nat × Array Instr}
  {pos : Nat} {groups found : Groups} {w : List Nat} {layout : Layout}

/-- The only run from the last instruction is that of the empty input. -/
theorem runs_zero_iff (h0 : p.code[0]? = some .accept) : (∃ n, Runs p.code n 0 w) ↔ w = [] := by
  constructor
  · rintro ⟨n, hrun⟩
    cases hrun with
    | accept _ => rfl
    | fork hi hc _ =>
      obtain rfl := Option.some.inj (h0.symm.trans hi)
      exact nomatch hc
    | consume hi _ _ => exact nomatch h0.symm.trans hi
  · rintro rfl
    exact ⟨0, .accept h0⟩

namespace Emitted

variable (h : Emitted code 0 opens L r) (hp : Contains p.code r.2 code.size r.2.size)

include h hp

theorem inner_getD {a : Nat} (hl : code.size ≤ a) (hh : a < r.2.size) :
    ¬ p.Outside a ∧ Inner 0 code.size r.2.size opens (p.code.getD a default) := by
  have hi : r.2[a]? = some r.2[a] := Array.getElem?_eq_getElem hh
  have hcode := (hp a hl hh).trans hi
  rw [getD_code hcode]
  exact ⟨Nat.not_le_of_lt (lt_of_getElem? hcode), h.inner a _ hl hi⟩

theorem region : p.Region fun a => code.size ≤ a ∧ a < r.2.size where
  inside _ ha := (h.inner_getD hp ha.1 ha.2).1
  targets _ ha c hc := ((h.inner_getD hp ha.1 ha.2).2.targets c hc).symm
  not_accept _ ha := (h.inner_getD hp ha.1 ha.2).2.not_accept

theorem isSome_replayAt_iff (h0 : p.code[0]? = some .accept) :
    (p.replayAt pos groups w r.1).isSome = true ↔ w ∈ L := by
  rw [isSome_replayAt]
  constructor
  · rintro ⟨n, hrun⟩
    obtain ⟨u, hu, v, rfl, m, -, hrun⟩ := h.sound _ hp n w hrun
    obtain rfl := (runs_zero_iff h0).1 ⟨m, hrun⟩
    rwa [List.append_nil]
  · intro hw
    obtain ⟨m, hrun⟩ := h.complete _ hp w hw 0 [] (.accept h0)
    rw [List.append_nil] at hrun
    exact ⟨m, hrun⟩

theorem within_replayAt (h0 : p.code[0]? = some .accept) (hg : Within opens groups)
    (hf : p.replayAt pos groups w r.1 = some found) : Within opens found :=
  within_of_replayAt (h.region hp) h0
    (fun _ ha g n hi => (h.inner_getD hp ha.1 ha.2).2.opens g n hi) h.entry.symm hg hf

end Emitted

/-- No group has occurrences. -/
def Bare (groups : Groups) : Prop := ∀ g, groups.getD g [] = []

theorem Bare.within (h : Bare groups) (opens : Nat → Prop) : Within opens groups := fun g hg =>
  absurd (h g) hg

/-- The first of some branches that stands for an input if its loops are not exclusive. -/
inductive Decides (w : List Nat) : List Pattern → Pattern → Prop
  | here {b : Pattern} {rest : List Pattern} : w ∈ b.lax → Decides w (b :: rest) b
  | later {b c : Pattern} {rest : List Pattern} : w ∉ c.lax → Decides w rest b → Decides w (c :: rest) b

namespace Decides

variable {branches : List Pattern} {b b' : Pattern}

theorem mem (h : Decides w branches b) : b ∈ branches := by
  induction h with
  | here _ => exact List.mem_cons_self
  | later _ _ ih => exact List.mem_cons_of_mem _ ih

theorem mem_lax (h : Decides w branches b) : w ∈ b.lax := by
  induction h with
  | here hw => exact hw
  | later _ _ ih => exact ih

theorem unique (h : Decides w branches b) (h' : Decides w branches b') : b = b' := by
  induction h with
  | here hw =>
    cases h' with
    | here _ => rfl
    | later hnot _ => exact absurd hw hnot
  | later hnot _ ih =>
    cases h' with
    | here hw => exact absurd hw hnot
    | later _ h' => exact ih h'

end Decides

/-- The replay of some branches decides for one of them. -/
theorem exists_decides_replayAt (h0 : p.code[0]? = some .accept) (hg : Bare groups) :
    ∀ branches : List Pattern, Contains p.code (emitSelect layout branches 0 code).2 code.size
      (emitSelect layout branches 0 code).2.size →
        p.replayAt pos groups w (emitSelect layout branches 0 code).1 = some found →
          ∃ b, Decides w branches b ∧ Within (Opens layout b.labels) found
  | [], hp, hf => by
    have hw := ((emitted_emitSelect layout [] 0 code).isSome_replayAt_iff hp h0).1 (Option.isSome_of_eq_some hf)
    exact absurd hw (Language.notMem_zero w)
  | [b], hp, hf => by
    have hb : Emitted code 0 (Opens layout b.labels) b.lax (emitSelect layout [b] 0 code) :=
      emitted_emit layout b 0 code
    have hw := (hb.isSome_replayAt_iff hp h0).1 (Option.isSome_of_eq_some hf)
    exact ⟨b, .here hw, hb.within_replayAt hp h0 (hg.within _) hf⟩
  | b :: other :: rest, hp, hf => by
    have hrest := emitted_emitSelect layout (other :: rest) 0 code
    have ih := exists_decides_replayAt h0 hg (other :: rest)
    simp only [emitSelect] at hp hf
    generalize emitSelect layout (other :: rest) 0 code = r at hp hf hrest ih
    have hfirst := emitted_emit layout b 0 r.2
    generalize emit layout b 0 r.2 = r' at hp hf hfirst
    have hle := hrest.size_le
    have hle' := hfirst.size_le
    have he : p.code[r'.2.size]? = some (.split r'.1 r.1) :=
      getElem?_contains_place (Nat.le_trans hle hle') hp
    have hp' := contains_of_place hp
    have hpFirst := hrest.contains_new hp'
    have hpRest := hfirst.contains hp'
    have hsplit : p.replayAt pos groups w r'.2.size =
        (p.replayAt pos groups w r'.1).or (p.replayAt pos groups w r.1) :=
      replayAt_split (hfirst.region hpFirst) (hrest.region hpRest) h0 (fun a ha hb => by omega) he
        (by omega) (by omega) hfirst.entry.symm hrest.entry.symm
    rw [place, hsplit] at hf
    cases hfound : p.replayAt pos groups w r'.1 with
    | some found' =>
      rw [hfound] at hf
      obtain rfl := Option.some.inj hf
      have hw := (hfirst.isSome_replayAt_iff hpFirst h0).1 (Option.isSome_of_eq_some hfound)
      exact ⟨b, .here hw, hfirst.within_replayAt hpFirst h0 (hg.within _) hfound⟩
    | none =>
      rw [hfound, Option.none_or] at hf
      have hw : w ∉ b.lax := fun hw => by
        have hsome : (p.replayAt pos groups w r'.1).isSome = true :=
          (hfirst.isSome_replayAt_iff hpFirst h0).2 hw
        rw [hfound] at hsome
        cases hsome
      obtain ⟨b', hb', hwithin⟩ := ih hpRest hf
      exact ⟨b', .later hw hb', hwithin⟩

theorem captures?_eq (p : Program) (start : Nat) (w : List Nat) :
    p.captures? start w = (p.replayAt start (List.replicate p.groups []) w p.start).map fun groups =>
      ⟨⟨start, start + w.length⟩, groups.map List.reverse⟩ := rfl

theorem ofPattern_code_zero (q : Pattern) (layout : Layout) :
    (ofPattern q layout).code[0]? = some .accept :=
  (emitted_emit layout q 0 #[.accept]).keeps 0 Nat.zero_lt_one

/-- Exclusive loops do not matter to whether groups are found. -/
theorem isSome_captures? (q : Pattern) (layout : Layout) (start : Nat) (w : List Nat) :
    ((ofPattern q layout).captures? start w).isSome = true ↔ w ∈ q.lax := by
  rw [captures?_eq, Option.isSome_map]
  exact (emitted_emit layout q 0 #[.accept]).isSome_replayAt_iff (fun _ _ _ => rfl) (ofPattern_code_zero q layout)

theorem bare_replicate (n : Nat) : Bare (List.replicate n []) := by
  intro g
  rw [List.getD_eq_getElem?_getD, List.getElem?_replicate]
  split <;> rfl

/-- The groups that are found for branches are those of the branch that decides. -/
theorem exists_decides_captures? {branches : List Pattern} {start : Nat} {c : Captured}
    (h : (ofPattern (.select branches) layout).captures? start w = some c) :
    ∃ b, Decides w branches b ∧ ∀ g, c.groups.getD g [] ≠ [] → Opens layout b.labels g := by
  rw [captures?_eq, Option.map_eq_some_iff] at h
  obtain ⟨groups, hg, rfl⟩ := h
  obtain ⟨b, hb, hwithin⟩ := exists_decides_replayAt (ofPattern_code_zero (.select branches) layout)
    (bare_replicate _) branches (fun _ _ _ => rfl) hg
  refine ⟨b, hb, fun g hg => hwithin g fun hnil => hg ?_⟩
  rw [List.getD_eq_getElem?_getD] at hnil ⊢
  rw [List.getElem?_map]
  cases hgroup : groups[g]? with
  | none => rfl
  | some l =>
    rw [hgroup] at hnil
    obtain rfl : l = [] := hnil
    rfl

end Program

end Polymatch
