import Polymatch.Pattern.Parser
import Polymatch.Proofs.Pattern.Reading

/-! # Parsing

Whether the tokens of a text can be put together depends on little of what has been
read: whether the current branch has an item, and how many groups are open. A text
can be parsed exactly if it is an alternation of the grammar.
-/

namespace Polymatch.Pattern

open Grammar

variable {options : ParseOptions} {t u v : List Char} {c : Char} {item item' : Bool} {depth : Nat}

/-- The tokens can be put together where the current branch has an item or none and some groups are
open. -/
def Fits : List Lexeme → Bool → Nat → Prop
  | [], _, depth => depth = 0
  | ⟨_, token⟩ :: rest, item, depth =>
    match token with
    | .bar => Fits rest false depth
    | .opening => Fits rest false (depth + 1)
    | .closing =>
      match depth with
      | 0 => False
      | depth + 1 => Fits rest true depth
    | .atom _ => Fits rest true depth
    | .quantifier _ => item = true ∧ Fits rest true depth
    | .badAtom _ | .badQuantifier _ => False

theorem assemble_ok {l : List Lexeme} {f : Frame} {open_ : List OpenGroup} :
    (∃ p, assemble l f open_ = .ok p) ↔ Fits l (!f.items.isEmpty) open_.length := by
  induction l generalizing f open_ with
  | nil => cases open_ <;> simp [assemble, Fits]
  | cons lexeme l ih =>
    obtain ⟨text, token⟩ := lexeme
    rw [assemble.eq_def, Fits.eq_def]
    cases token with
    | bar => exact ih
    | opening => exact ih
    | closing =>
      cases open_ with
      | nil => simp
      | cons g others => exact ih
    | atom p => exact ih
    | badAtom fault => simp
    | quantifier q =>
      obtain ⟨branches, items, groups⟩ := f
      cases items with
      | nil => simp
      | cons p items => exact ih.trans (and_iff_right rfl).symm
    | badQuantifier fault =>
      dsimp only
      split <;> simp

/-- The text can be read on where the current branch has an item or none and some groups are open. -/
def Parses (options : ParseOptions) (item : Bool) (depth : Nat) (t : List Char) : Prop :=
  Fits (lexemes options t) item depth

theorem parses_nil : Parses options item depth [] ↔ depth = 0 := by
  rw [Parses, lexemes, Fits]

theorem parses_bar : Parses options item depth ('|' :: t) ↔ Parses options false depth t := by
  rw [Parses, lexemes]
  rfl

theorem parses_opening : Parses options item depth ('(' :: t) ↔ Parses options false (depth + 1) t := by
  rw [Parses, lexemes]
  rfl

theorem parses_closing : Parses options item depth (')' :: t) ↔
    ∃ outer, depth = outer + 1 ∧ Parses options true outer t := by
  rw [Parses, lexemes]
  cases depth with
  | zero => simp [Token.read, Fits]
  | succ depth => simp [Token.read, Fits, Parses]

theorem parses_any : Parses options item depth ('.' :: t) ↔ Parses options true depth t := by
  rw [Parses, lexemes]
  rfl

theorem parses_char (hc : c ∉ special) : Parses options item depth (c :: t) ↔ Parses options true depth t := by
  have hread : Token.read options c t = (.atom (ofChar options c), t) := by
    rw [Token.read]
    all_goals
      rintro rfl
      exact hc (by decide)
  rw [Parses, lexemes, hread]
  rfl

theorem parses_brackets : Parses options item depth ('[' :: t) ↔
    ∃ u, Class t u ∧ Parses options true depth u := by
  have hread : Token.read options '[' t = Token.ofRead .atom .badAtom (readClass options t) := rfl
  rw [Parses, lexemes, hread]
  simp only [← @readClass_ok t _ options]
  cases readClass options t with
  | error fault => simp [Token.ofRead, Fits]
  | ok read => simp [Token.ofRead, Fits, Prod.ext_iff, Parses]

theorem parses_escape : Parses options item depth ('\\' :: t) ↔
    ∃ u, Atom ('\\' :: t) u ∧ Parses options true depth u := by
  have hread : Token.read options '\\' t = Token.readEscape options t := rfl
  rw [Parses, lexemes, hread, Token.readEscape]
  simp only [atom_escape_iff, ← Escape.read_eq_unit, ← Escape.read_eq_ranges]
  cases Escape.read t with
  | error kind => simp [Fits]
  | ok read =>
    obtain ⟨e, v⟩ := read
    cases e <;> simp [Fits, Parses]

theorem parses_policy (h : Policy t u) : Parses options true depth t ↔ Parses options true depth u := by
  cases h with
  | plain => rfl
  | limiting => exact parses_char (by decide)
  | extending => exact parses_char (by decide)

theorem parses_optional : Parses options item depth ('?' :: t) ↔ item = true ∧ Parses options true depth t := by
  rw [Parses, lexemes]
  rfl

theorem parses_loop (hc : c = '*' ∨ c = '+') : Parses options item depth (c :: t) ↔
    item = true ∧ Parses options true depth t := by
  rw [parses_policy (Quantifier.policy_readPolicy t), Parses, lexemes]
  rcases hc with rfl | rfl <;> rfl

theorem parses_braced : Parses options item depth ('\x7b' :: t) ↔
    item = true ∧ ∃ u, Counts t ('\x7d' :: u) ∧ Parses options true depth u := by
  have hread : Token.read options '\x7b' t =
      Token.ofRead .quantifier .badQuantifier (Quantifier.readBraced t) := rfl
  rw [Parses, lexemes, hread]
  constructor
  · intro h
    cases hq : Quantifier.readBraced t with
    | error fault =>
      rw [hq] at h
      exact h.elim
    | ok read =>
      obtain ⟨q, v⟩ := read
      rw [hq] at h
      obtain ⟨hitem, hv⟩ := h
      obtain ⟨u, hcounts, hpolicy⟩ := Quantifier.of_readBraced hq
      exact ⟨hitem, u, hcounts, (parses_policy hpolicy).2 hv⟩
  · rintro ⟨hitem, u, hcounts, hu⟩
    obtain ⟨q, v, hq, hpolicy⟩ := Quantifier.exists_readBraced hcounts
    rw [hq]
    exact ⟨hitem, (parses_policy hpolicy).1 hu⟩

/-! ## What the grammar has is parsed -/

theorem parses_quantifier (h : Grammar.Quantifier t u) (hu : Parses options true depth u) :
    Parses options true depth t := by
  cases h with
  | optional => exact parses_optional.2 ⟨rfl, hu⟩
  | loop hc hp => exact (parses_loop hc).2 ⟨rfl, (parses_policy hp).2 hu⟩
  | counted hn => exact parses_braced.2 ⟨rfl, _, hn, hu⟩
  | atLeast hn hp => exact parses_braced.2 ⟨rfl, _, .atLeast hn, (parses_policy hp).2 hu⟩

theorem parses_quantifiers (h : Quantifiers t u) (hu : Parses options true depth u) :
    Parses options true depth t := by
  induction h with
  | none => exact hu
  | more hq _ ih => exact parses_quantifier hq (ih hu)

mutual

/-- An alternation is read on if what is behind it can be, whatever items are in front. -/
theorem parses_alternation : ∀ {t u : List Char}, Alternation t u → ∀ {depth : Nat},
    (∀ item, Parses options item depth u) → ∀ item, Parses options item depth t
  | _, _, .sequence hs, _, hu, item => parses_sequence hs hu item
  | _, _, .bar hs ha, _, hu, item =>
    parses_sequence hs (fun _ => parses_bar.2 (parses_alternation ha hu false)) item

theorem parses_sequence : ∀ {t u : List Char}, Sequence t u → ∀ {depth : Nat},
    (∀ item, Parses options item depth u) → ∀ item, Parses options item depth t
  | _, _, .nil, _, hu, item => hu item
  | _, _, .cons ha hq hs, _, hu, item => parses_atom ha (parses_quantifiers hq (parses_sequence hs hu true)) item

theorem parses_atom : ∀ {t u : List Char}, Atom t u → ∀ {depth : Nat},
    Parses options true depth u → ∀ item, Parses options item depth t
  | _, _, .group ha, depth, hu, _ =>
    parses_opening.2 (parses_alternation ha (fun _ => parses_closing.2 ⟨depth, rfl, hu⟩) false)
  | _, _, .brackets hc, _, hu, _ => parses_brackets.2 ⟨_, hc, hu⟩
  | _, _, .any, _, hu, _ => parses_any.2 hu
  | _, _, .escape he, _, hu, _ => parses_escape.2 ⟨_, .escape he, hu⟩
  | _, _, .classEscape hc, _, hu, _ => parses_escape.2 ⟨_, .classEscape hc, hu⟩
  | _, _, .char hc, _, hu, _ => (parses_char hc).2 hu

end

/-! ## What is parsed is in the grammar -/

/-- The rest of an alternation. Behind an item, there may be more quantifiers of it. -/
inductive Remainder : Bool → List Char → List Char → Prop
  | start {t u : List Char} {item : Bool} : Alternation t u → Remainder item t u
  | quantifier {t u v : List Char} : Grammar.Quantifier t u → Remainder true u v → Remainder true t v

theorem Remainder.exists_quantifiers (h : Remainder item t v) : ∃ u, Quantifiers t u ∧ Alternation u v := by
  induction h with
  | start h => exact ⟨_, .none, h⟩
  | quantifier hq _ ih =>
    obtain ⟨u, hqs, h⟩ := ih
    exact ⟨u, .more hq hqs, h⟩

theorem Remainder.atom (ha : Atom t u) (h : Remainder true u v) : Remainder item t v := by
  obtain ⟨w, hqs, h⟩ := h.exists_quantifiers
  exact .start (h.cons ha hqs)

theorem Remainder.bar (h : Remainder false t u) : Remainder item ('|' :: t) u := by
  cases h with
  | start h => exact .start (.bar .nil h)

/-- The text goes on with the rest of an alternation and of those around it, up to its end. -/
def Closes : Bool → Nat → List Char → Prop
  | item, 0, t => Remainder item t []
  | item, depth + 1, t => ∃ u, Remainder item t (')' :: u) ∧ Closes true depth u

theorem Closes.map (hr : ∀ v, Remainder item t v → Remainder item' u v) (h : Closes item depth t) :
    Closes item' depth u := by
  cases depth with
  | zero => exact hr _ h
  | succ depth =>
    obtain ⟨v, ht, hv⟩ := h
    exact ⟨v, hr _ ht, hv⟩

theorem closes_of_parses (h : Parses options item depth t) : Closes item depth t := by
  -- By induction on what is left of the text, with a case for every way to start a token.
  induction hn : t.length using Nat.strongRecOn generalizing t item depth with
  | ind n ih =>
    subst hn
    have hrest : ∀ {item depth u}, u.length < t.length → Parses options item depth u → Closes item depth u :=
      fun hlt h => ih _ hlt h rfl
    cases t with
    | nil =>
      obtain rfl := parses_nil.1 h
      exact .start (.sequence .nil)
    | cons c t =>
      have hnext := Nat.lt_succ_self t.length
      by_cases hc : c ∈ special
      · simp only [special, List.mem_cons, List.not_mem_nil, or_false] at hc
        rcases hc with rfl | rfl | rfl | rfl | rfl | rfl | rfl | rfl | rfl | rfl
        · obtain ⟨u, ⟨ha⟩, hu⟩ := hrest hnext (parses_opening.1 h)
          exact hu.map fun v => .atom (.group ha)
        · obtain ⟨outer, rfl, ht⟩ := parses_closing.1 h
          exact ⟨t, .start (.sequence .nil), hrest hnext ht⟩
        · obtain ⟨u, hclass, hu⟩ := parses_brackets.1 h
          exact (hrest (Nat.lt_succ_of_lt hclass.length_lt) hu).map fun v => .atom (.brackets hclass)
        · exact (hrest hnext (parses_bar.1 h)).map fun v => .bar
        · obtain ⟨rfl, ht⟩ := parses_optional.1 h
          exact (hrest hnext ht).map fun v => .quantifier .optional
        · obtain ⟨rfl, ht⟩ := (parses_loop (.inl rfl)).1 h
          exact (hrest hnext ht).map fun v => .quantifier (.loop (.inl rfl) .plain)
        · obtain ⟨rfl, ht⟩ := (parses_loop (.inr rfl)).1 h
          exact (hrest hnext ht).map fun v => .quantifier (.loop (.inr rfl) .plain)
        · obtain ⟨rfl, u, hcounts, hu⟩ := parses_braced.1 h
          exact (hrest (Nat.lt_succ_of_lt (Quantifier.length_lt_of_counts hcounts)) hu).map
            fun v => .quantifier (.counted hcounts)
        · obtain ⟨u, hatom, hu⟩ := parses_escape.1 h
          exact (hrest (Nat.lt_succ_of_lt (Escape.length_lt_of_atom hatom)) hu).map fun v => .atom hatom
        · exact (hrest hnext (parses_any.1 h)).map fun v => .atom .any
      · exact (hrest hnext ((parses_char hc).1 h)).map fun v => .atom (.char hc)

/-- A text can be parsed exactly if it is an alternation of the grammar. -/
theorem exists_parse_iff (text : String) (options : ParseOptions) :
    (∃ p, parse text options = .ok p) ↔ Alternation text.toList [] := by
  have hparse : (∃ p, parse text options = .ok p) ↔ Parses options false 0 text.toList := by
    refine Iff.trans ?_ (@assemble_ok (lexemes options text.toList) .start [])
    rw [parse]
    cases assemble (lexemes options text.toList) .start [] <;> simp
  rw [hparse]
  constructor
  · intro h
    obtain ⟨h⟩ := closes_of_parses h
    exact h
  · exact fun h => parses_alternation h (fun item => parses_nil.2 rfl) false

end Polymatch.Pattern
