import Polymatch.Pattern.Parser
import Polymatch.Proofs.Pattern.Atoms

/-! # Numbering groups while a text is read

An open group has its number from the alternation around it, which counts the groups
opened directly inside. So every alternation under way is orderly up to the group that
is open in it, and the pattern of a text is orderly.
-/

namespace Polymatch.Pattern

variable {path : Label} {next : Nat} {f : Frame} {g : OpenGroup} {open_ : List OpenGroup} {p : Pattern}

theorem Quantifier.orderly_apply {first : Nat} (h : p.Orderly path first next) (q : Quantifier) :
    (q.apply p).Orderly path first next := by
  cases q with
  | optional => exact h
  | loop min policy => exact h
  | times counts => exact h.times counts

/-- The groups of an alternation under way are numbered up to `next`. -/
def Frame.Orderly (f : Frame) (path : Label) (next : Nat) : Prop :=
  ∃ middle, AllOrderly f.branches.reverse path 0 middle ∧ AllOrderly f.items.reverse path middle next

namespace Frame.Orderly

theorem start (path : Label) : Frame.start.Orderly path 0 := ⟨0, rfl, rfl⟩

theorem pushBranch (h : f.Orderly path next) : AllOrderly (f.branch :: f.branches).reverse path 0 next := by
  obtain ⟨middle, hbranches, hitems⟩ := h
  rw [List.reverse_cons]
  exact allOrderly_append.2 ⟨middle, hbranches, allOrderly_singleton.2 (orderly_inOrder hitems)⟩

theorem pattern (h : f.Orderly path next) : f.pattern.Orderly path 0 next := orderly_oneOf h.pushBranch

theorem nextBranch (h : f.Orderly path next) : f.nextBranch.Orderly path next := ⟨next, h.pushBranch, rfl⟩

theorem push {last : Nat} (h : f.Orderly path next) (hp : p.Orderly path next last) :
    (f.push p).Orderly path last := by
  obtain ⟨middle, hbranches, hitems⟩ := h
  refine ⟨middle, hbranches, ?_⟩
  rw [Frame.push, List.reverse_cons]
  exact allOrderly_append.2 ⟨next, hitems, allOrderly_singleton.2 hp⟩

/-- A quantifier does not touch the groups of the last item. -/
theorem quantified {items : List Pattern} (h : f.Orderly path next) (hf : f.items = p :: items)
    (q : Quantifier) : Frame.Orderly { f with items := q.apply p :: items } path next := by
  obtain ⟨middle, hbranches, hitems⟩ := h
  rw [hf, List.reverse_cons] at hitems
  obtain ⟨between, hitems, hp⟩ := allOrderly_append.1 hitems
  refine ⟨middle, hbranches, ?_⟩
  rw [List.reverse_cons]
  exact allOrderly_append.2 ⟨between, hitems,
    allOrderly_singleton.2 (q.orderly_apply (allOrderly_singleton.1 hp))⟩

end Frame.Orderly

/-- The alternation around an open group is numbered up to that group. -/
def OpenGroup.Orderly (g : OpenGroup) (path : Label) : Prop :=
  ∃ number, g.around.groups = number + 1 ∧ g.around.Orderly path number

/-- Every open group stands in an orderly alternation inside the groups around it. -/
def Nested : List OpenGroup → Prop
  | [] => True
  | g :: others => g.Orderly (openLabel others) ∧ Nested others

theorem openLabel_cons (g : OpenGroup) (others : List OpenGroup) :
    openLabel (g :: others) = openLabel others ++ [g.around.groups - 1] := by
  rw [openLabel, List.map_cons, List.reverse_cons]
  rfl

/-- A group that is closed is the last item of the alternation around it. -/
theorem OpenGroup.Orderly.close {others : List OpenGroup} (h : g.Orderly (openLabel others))
    (hf : f.Orderly (openLabel (g :: others)) next) :
    (g.around.push (group (openLabel (g :: others)) f.pattern)).Orderly (openLabel others) g.around.groups := by
  obtain ⟨number, hnumber, haround⟩ := h
  refine haround.push ⟨?_, hnumber, next, hf.pattern⟩
  rw [openLabel_cons, hnumber, Nat.add_sub_cancel]

/-- What is open stays orderly from token to token. -/
theorem orderly_assemble {l : List Lexeme} (hl : ∀ lexeme ∈ l, lexeme.token.Sound)
    (hf : f.Orderly (openLabel open_) f.groups) (ho : Nested open_) (h : assemble l f open_ = .ok p) :
    ∃ next, p.Orderly [] 0 next := by
  induction l generalizing f open_ with
  | nil =>
    cases open_ with
    | nil =>
      cases h
      exact ⟨f.groups, hf.pattern⟩
    | cons g others => cases h
  | cons lexeme l ih =>
    obtain ⟨text, token⟩ := lexeme
    obtain ⟨htoken, hrest⟩ := List.forall_mem_cons.1 hl
    cases token with
    | bar => exact ih hrest hf.nextBranch ho h
    | opening =>
      have hg : OpenGroup.Orderly ⟨text, { f with groups := f.groups + 1 }⟩ (openLabel open_) :=
        ⟨f.groups, rfl, hf⟩
      have ho : Nested (⟨text, { f with groups := f.groups + 1 }⟩ :: open_) := ⟨hg, ho⟩
      exact ih hrest (.start _) ho h
    | closing =>
      cases open_ with
      | nil => cases h
      | cons g others => exact ih hrest (ho.1.close hf) ho.2 h
    | atom p => exact ih hrest (hf.push (htoken _ _)) ho h
    | badAtom fault => cases h
    | quantifier q =>
      rw [assemble.eq_def] at h
      dsimp only at h
      split at h
      · cases h
      · rename_i hitems
        exact ih hrest (hf.quantified hitems q) ho h
    | badQuantifier fault =>
      rw [assemble.eq_def] at h
      dsimp only at h
      split at h <;> cases h

theorem exists_orderly_of_parse {text : String} {options : ParseOptions} (h : parse text options = .ok p) :
    ∃ next, p.Orderly [] 0 next := by
  rw [parse] at h
  split at h
  · rename_i hp
    cases h
    have hnested : Nested [] := trivial
    exact orderly_assemble (fun _ => sound_of_mem_lexemes) (.start _) hnested hp
  · cases h

end Polymatch.Pattern
