import Polymatch.Proofs.Pattern.Copies
import Polymatch.Proofs.Pattern.Places

/-! # Limits on the repetitions of pattern texts

Every number between the braces of a quantifier is checked, whatever form the quantifier
has, and nothing but a quantifier makes a repetition. So no repetition in the pattern of a
text goes beyond the limit, however deep it lies.
-/

namespace Polymatch.Pattern

variable {options : ParseOptions} {opened t u v : List Char} {n : Nat} {p : Pattern} {items : List Pattern}
  {q : Quantifier} {lexeme : Lexeme} {f f' : Frame} {open_ open' : List OpenGroup}

/-- No repetition in the pattern has a number above the limit. -/
def Limited (p : Pattern) : Prop := ∀ q ∈ p.repetitions, ∀ n ∈ q.numbers, n ≤ maxRepeat

theorem limited_of_repetitions_eq (h : p.repetitions = []) : p.Limited := by
  unfold Limited
  rw [h]
  exact List.forall_mem_nil _

theorem limited_all (h : ∀ p ∈ items, p.Limited) :
    ∀ q ∈ allRepetitions items, ∀ n ∈ q.numbers, n ≤ maxRepeat := by
  intro q hq
  obtain ⟨p, hp, hq⟩ := mem_allRepetitions.1 hq
  exact h p hp q hq

theorem limited_inOrder (h : ∀ p ∈ items, p.Limited) : (inOrder items).Limited := by
  unfold Limited
  rw [repetitions_inOrder]
  exact limited_all h

theorem limited_oneOf (h : ∀ p ∈ items, p.Limited) : (oneOf items).Limited := by
  unfold Limited
  rw [repetitions_oneOf]
  exact limited_all h

/-- Putting counts in normal form adds no count but zero. -/
theorem le_of_mem_normalCounts {limit : Nat} {counts : List Nat} (h : ∀ n ∈ counts, n ≤ limit)
    (hn : n ∈ normalCounts counts) : n ≤ limit := by
  unfold normalCounts at hn
  split at hn
  · rw [List.mem_singleton.1 hn]
    exact Nat.zero_le limit
  · exact h n (List.mem_mergeSort.1 (mem_eraseReps.1 hn))

/-! ## Quantifiers -/

namespace Quantifier

/-- The counts of the repetition that the quantifier makes, or its least number of rounds. -/
def numbers : Quantifier → List Nat
  | optional => []
  | loop min _ => [min]
  | times counts => normalCounts counts

theorem limited_apply (hq : ∀ n ∈ q.numbers, n ≤ maxRepeat) (hp : p.Limited) : (q.apply p).Limited := by
  cases q with
  | optional => exact hp
  | loop min policy => exact List.forall_mem_cons.2 ⟨hq, hp⟩
  | times counts => exact List.forall_mem_cons.2 ⟨hq, hp⟩

theorem Fields.le {fields : List (Option Nat)} (h : Fields t fields u) (hn : some n ∈ fields) : n ≤ maxRepeat := by
  have hnumber : ∀ {t u}, Field t (some n) u → n ≤ maxRepeat := by
    intro t u h
    cases h with
    | decimal hne hdigits hle => exact hle
  induction h with
  | last h => exact hnumber ((List.mem_singleton.1 hn) ▸ h)
  | more h _ ih =>
    rcases List.mem_cons.1 hn with rfl | hn
    · exact hnumber h
    · exact ih hn

theorem limited_ofCounts {fields : List (Option Nat)} (hfields : ∀ n, some n ∈ fields → n ≤ maxRepeat)
    (h : ofCounts fields u = .ok (q, v)) : ∀ n ∈ q.numbers, n ≤ maxRepeat := by
  unfold ofCounts at h
  split at h
  · rename_i n
    cases h
    intro k hk
    apply le_of_mem_normalCounts _ hk
    exact List.forall_mem_singleton.2 (hfields n List.mem_cons_self)
  · rename_i min
    cases h
    exact List.forall_mem_singleton.2 (hfields min List.mem_cons_self)
  · rename_i min max
    have hmax : max ≤ maxRepeat := hfields max (List.mem_cons_of_mem _ List.mem_cons_self)
    split at h
    · cases h
      intro k hk
      apply le_of_mem_normalCounts _ hk
      intro k hk
      obtain ⟨-, hlt⟩ := List.mem_range'_1.1 hk
      omega
    · cases h
  · split at h
    · cases h
      intro k hk
      apply le_of_mem_normalCounts _ hk
      intro k hk
      obtain ⟨field, hfield, rfl⟩ := List.mem_filterMap.1 hk
      exact hfields k hfield
    · cases h

theorem limited_readBraced (h : readBraced t = .ok (q, v)) : ∀ n ∈ q.numbers, n ≤ maxRepeat := by
  unfold readBraced at h
  split at h
  · cases h
  · rename_i fields rest hread
    split at h
    · cases h
    · rename_i hq
      cases h
      have hfields : Fields t fields rest := readCounts_eq_ok.1 hread
      exact limited_ofCounts (fun _ => hfields.le) hq

end Quantifier

/-! ## Tokens -/

theorem repetitions_ofUnit (n : Nat) : (ofUnit options n).repetitions = [] := by
  unfold ofUnit
  split <;> rfl

theorem repetitions_ofChar (c : Char) : (ofChar options c).repetitions = [] := by
  unfold ofChar
  split
  · exact repetitions_ofUnit _
  · exact allRepetitions_symbols _

theorem repetitions_readClass (h : readClass options t = .ok (p, u)) : p.repetitions = [] := by
  have hbody : ∀ {opened t negated}, readClassBody options opened negated t = .ok (p, u) → p.repetitions = [] := by
    intro opened t negated h
    unfold readClassBody at h
    split at h <;> cases h
    rfl
  unfold readClass at h
  split at h <;> exact hbody h

namespace Token

/-- What the token brings into the pattern has no number above the limit. -/
def Limited : Token → Prop
  | atom p => p.Limited
  | quantifier q => ∀ n ∈ q.numbers, n ≤ maxRepeat
  | _ => True

theorem limited_readEscape (t : List Char) : (readEscape options t).1.Limited := by
  unfold readEscape
  split
  · exact limited_of_repetitions_eq (repetitions_ofUnit _)
  · exact limited_of_repetitions_eq rfl
  · trivial

theorem limited_readLoop {min : Nat} (h : min ≤ maxRepeat) (t : List Char) : (readLoop min t).1.Limited :=
  List.forall_mem_singleton.2 h

theorem limited_read (c : Char) (t : List Char) : (read options c t).1.Limited := by
  unfold read
  split
  case h_4 => exact limited_of_repetitions_eq rfl
  case h_5 =>
    cases hr : readClass options t with
    | error fault => trivial
    | ok read => exact limited_of_repetitions_eq (repetitions_readClass hr)
  case h_6 => exact limited_readEscape t
  case h_7 => exact List.forall_mem_nil _
  case h_8 => exact limited_readLoop (by decide) t
  case h_9 => exact limited_readLoop (by decide) t
  case h_10 =>
    cases hr : Quantifier.readBraced t with
    | error fault => trivial
    | ok read => exact Quantifier.limited_readBraced hr
  case h_11 => exact limited_of_repetitions_eq (repetitions_ofChar _)
  all_goals trivial

end Token

theorem limited_of_mem_lexemes (h : lexeme ∈ lexemes options t) : lexeme.token.Limited := by
  fun_induction lexemes options t with
  | case1 => cases h
  | case2 c t _ ih =>
    rcases List.mem_cons.1 h with rfl | h
    · exact Token.limited_read c t
    · exact ih h

/-! ## Reading a text -/

/-- Nothing read so far has a number above the limit. -/
structure Frame.Limited (f : Frame) : Prop where
  branches : ∀ p ∈ f.branches, p.Limited
  items : ∀ p ∈ f.items, p.Limited

namespace Frame.Limited

theorem start : Frame.start.Limited := ⟨List.forall_mem_nil _, List.forall_mem_nil _⟩

theorem pushBranch (h : f.Limited) : ∀ p ∈ f.branch :: f.branches, p.Limited := by
  have hbranch : f.branch.Limited := limited_inOrder fun p hp => h.items p (List.mem_reverse.1 hp)
  exact List.forall_mem_cons.2 ⟨hbranch, h.branches⟩

theorem pattern (h : f.Limited) : f.pattern.Limited :=
  limited_oneOf fun p hp => h.pushBranch p (List.mem_reverse.1 hp)

theorem push (h : f.Limited) (hp : p.Limited) : (f.push p).Limited := ⟨h.branches, List.forall_mem_cons.2 ⟨hp, h.items⟩⟩

end Frame.Limited

/-- A token that is read leaves everything within the limit. -/
theorem limited_advance (hl : lexeme.token.Limited) (hf : f.Limited) (ho : ∀ g ∈ open_, g.around.Limited)
    (h : advance lexeme f open_ = .ok (f', open')) : f'.Limited ∧ ∀ g ∈ open', g.around.Limited := by
  obtain ⟨text, token⟩ := lexeme
  cases token with
  | bar =>
    cases h
    exact ⟨⟨hf.pushBranch, List.forall_mem_nil _⟩, ho⟩
  | opening =>
    cases h
    exact ⟨.start, List.forall_mem_cons.2 ⟨⟨hf.branches, hf.items⟩, ho⟩⟩
  | closing =>
    cases open_ with
    | nil => cases h
    | cons g others =>
      cases h
      obtain ⟨hg, hothers⟩ := List.forall_mem_cons.1 ho
      exact ⟨hg.push hf.pattern, hothers⟩
  | atom p =>
    cases h
    exact ⟨hf.push hl, ho⟩
  | badAtom fault => cases h
  | quantifier q =>
    unfold advance at h
    dsimp only at h
    split at h
    · cases h
    · rename_i p items hitems
      cases h
      obtain ⟨hp, hrest⟩ := List.forall_mem_cons.1 (hitems ▸ hf.items)
      exact ⟨⟨hf.branches, List.forall_mem_cons.2 ⟨Quantifier.limited_apply hl hp, hrest⟩⟩, ho⟩
  | badQuantifier fault => cases h

theorem limited_assemble {l : List Lexeme} (hl : ∀ lexeme ∈ l, lexeme.token.Limited) (hf : f.Limited)
    (ho : ∀ g ∈ open_, g.around.Limited) (h : assemble l f open_ = .ok p) : p.Limited := by
  induction l generalizing f open_ with
  | nil =>
    cases open_ with
    | nil =>
      cases h
      exact hf.pattern
    | cons g others => cases h
  | cons lexeme l ih =>
    obtain ⟨hlexeme, hrest⟩ := List.forall_mem_cons.1 hl
    rw [assemble_cons] at h
    cases hstep : advance lexeme f open_ with
    | error fault =>
      rw [hstep] at h
      cases h
    | ok r =>
      rw [hstep] at h
      obtain ⟨hf, ho⟩ := limited_advance hlexeme hf ho hstep
      exact ih hrest hf ho h

theorem limited_of_parse {text : String} (h : parse text options = .ok p) : p.Limited := by
  unfold parse at h
  split at h
  · rename_i hp
    cases h
    exact limited_assemble (fun _ => limited_of_mem_lexemes) .start (List.forall_mem_nil _) hp
  · cases h

end Polymatch.Pattern
