import Polymatch.Proofs.Pattern.InPlace

/-! # Places of pattern texts

Lexeme by lexeme, a pattern is put together in place as it is from the lexemes. What goes
from one lexeme to the next is the alternation with the groups open around it, and these
start at places of the text.
-/

namespace Polymatch.Pattern

open Text (At Agree Same)

variable {text cs t rest : List Char} {c : Char} {options : ParseOptions} {f : Frame} {open_ : List OpenGroup}
  {s : InPlace.State}

/-- What one lexeme makes of an alternation and the groups open around it. -/
def advance (lexeme : Lexeme) (f : Frame) (open_ : List OpenGroup) : Except Fault (Frame × List OpenGroup) :=
  match lexeme.token with
  | .bar => .ok (f.nextBranch, open_)
  | .opening => .ok (.start, ⟨lexeme.text, { f with groups := f.groups + 1 }⟩ :: open_)
  | .closing =>
    match open_ with
    | [] => .error ⟨lexeme.text, .unopenedGroup⟩
    | g :: others => .ok (g.around.push (group (openLabel open_) f.pattern), others)
  | .atom p => .ok (f.push p, open_)
  | .badAtom fault => .error fault
  | .quantifier q =>
    match f.items with
    | [] => .error ⟨lexeme.text, .nothingToRepeat⟩
    | p :: items => .ok ({ f with items := q.apply p :: items }, open_)
  | .badQuantifier fault => .error (if f.items.isEmpty then ⟨lexeme.text, .nothingToRepeat⟩ else fault)

theorem assemble_cons (lexeme : Lexeme) (l : List Lexeme) (f : Frame) (open_ : List OpenGroup) :
    assemble (lexeme :: l) f open_ = advance lexeme f open_ >>= fun (f, open_) => assemble l f open_ := by
  obtain ⟨text, token⟩ := lexeme
  cases token with
  | closing => cases open_ <;> rfl
  | quantifier q =>
    obtain ⟨branches, items, groups⟩ := f
    cases items <;> rfl
  | badQuantifier fault =>
    obtain ⟨branches, items, groups⟩ := f
    cases items <;> rfl
  | _ => rfl

/-- The group open in place is the group whose text starts there. -/
def Opens (text : List Char) (o : InPlace.Opening) (g : OpenGroup) : Prop := At text o.start g.text ∧ o.around = g.around

/-- The state in place is at what is left of the text, with this alternation and these open groups. -/
structure Stands (text : List Char) (s : InPlace.State) (rest : List Char) (r : Frame × List OpenGroup) : Prop where
  place : At text s.pos rest
  frame : s.frame = r.1
  open_ : List.Forall₂ (Opens text) s.open_ r.2

theorem map_groups {l : List InPlace.Opening} (h : List.Forall₂ (Opens text) l open_) :
    l.map (·.around.groups - 1) = open_.map (·.around.groups - 1) := by
  induction h with
  | nil => rfl
  | cons hopens _ ih => rw [List.map_cons, List.map_cons, ih, hopens.2]

namespace Stands

theorem label (h : Stands text s rest (f, open_)) : s.label = openLabel open_ :=
  congrArg List.reverse (map_groups h.open_)

theorem push (h : Stands text s rest (f, open_)) {p : Pattern} {pos : Nat} {behind : List Char}
    (hbehind : At text pos behind) : Stands text (s.item (p, pos)) behind (f.push p, open_) :=
  ⟨hbehind, congrArg (·.push p) h.frame, h.open_⟩

end Stands

/-- A token that may not be well formed as an atom. -/
theorem agree_item (h : Stands text s rest (f, open_)) {x : Except Halt (Pattern × Nat)}
    {y : Except Fault (Pattern × List Char)} (hread : Agree text (Same text) x y) :
    Agree text (fun s' => Stands text s' (Token.ofRead .atom .badAtom y).2) (s.item <$> x)
      (advance ⟨t, (Token.ofRead .atom .badAtom y).1⟩ f open_) := by
  obtain ⟨p, pos, behind, rfl, rfl, hbehind⟩ | ⟨offset, behind, kind, rfl, rfl, hbehind⟩ := hread.ok_or_fault
  · exact .ok (h.push hbehind)
  · exact .fault hbehind

theorem agree_quantifier (h : Stands text s t (f, open_)) {x : Except Halt (Quantifier × Nat)}
    {y : Except Fault (Quantifier × List Char)} (hread : Agree text (Same text) x y) :
    Agree text (fun s' => Stands text s' (Token.ofRead .quantifier .badQuantifier y).2)
      (match s.frame.items with
      | [] => .error (.fault s.pos .nothingToRepeat)
      | p :: items =>
        (fun (q, behind) => { s with pos := behind, frame := { s.frame with items := q.apply p :: items } }) <$> x)
      (advance ⟨t, (Token.ofRead .quantifier .badQuantifier y).1⟩ f open_) := by
  obtain ⟨branches, items, groups⟩ := f
  have hframe : s.frame = ⟨branches, items, groups⟩ := h.frame
  rw [hframe]
  obtain ⟨q, pos, behind, rfl, rfl, hbehind⟩ | ⟨offset, behind, kind, rfl, rfl, hbehind⟩ := hread.ok_or_fault
  · cases items with
    | nil => exact .fault h.place
    | cons p items => exact .ok ⟨hbehind, rfl, h.open_⟩
  · cases items with
    | nil => exact .fault h.place
    | cons p items => exact .fault hbehind

theorem agree_closing (options : ParseOptions) (h : Stands text s (')' :: cs) (f, open_)) :
    Agree text (fun s' => Stands text s' cs) (InPlace.step options text s ')' (s.pos + ')'.utf8Size))
      (advance ⟨')' :: cs, .closing⟩ f open_) := by
  have hframe : s.frame = f := h.frame
  have hlabel := h.label
  obtain ⟨pos, frame, opened⟩ := s
  cases h.open_ with
  | nil => exact .fault h.place
  | @cons o g others others' hopens hothers =>
    refine .ok ⟨h.place.next, ?_, hothers⟩
    dsimp only at hframe ⊢
    rw [hlabel, hframe, hopens.2]

theorem agree_escape (h : Stands text s ('\\' :: cs) (f, open_)) :
    Agree text (fun s' => Stands text s' (Token.readEscape options cs).2)
      (InPlace.step options text s '\\' (s.pos + '\\'.utf8Size))
      (advance ⟨'\\' :: cs, (Token.readEscape options cs).1⟩ f open_) := by
  have hread := agree_readEscape h.place.next h.place
  unfold InPlace.step Token.readEscape
  cases hescape : Escape.read cs with
  | error kind =>
    rw [hescape] at hread
    obtain ⟨offset, hx, hrest⟩ := hread.of_fault
    dsimp only
    rw [hx]
    exact .fault hrest
  | ok read =>
    obtain ⟨e, rest⟩ := read
    rw [hescape] at hread
    obtain ⟨pos, hx, hrest⟩ := hread.of_ok
    dsimp only
    rw [hx]
    cases e with
    | unit u => exact .ok (h.push hrest)
    | ranges l => exact .ok (h.push hrest)

theorem agree_step (h : Stands text s (c :: cs) (f, open_)) :
    Agree text (fun s' => Stands text s' (Token.read options c cs).2)
      (InPlace.step options text s c (s.pos + c.utf8Size))
      (advance ⟨c :: cs, (Token.read options c cs).1⟩ f open_) := by
  have hframe : s.frame = f := h.frame
  unfold InPlace.step
  split
  · exact .ok ⟨h.place.next, congrArg Frame.nextBranch hframe, h.open_⟩
  · exact .ok ⟨h.place.next, rfl, .cons ⟨h.place, hframe ▸ rfl⟩ h.open_⟩
  · exact agree_closing options h
  · exact .ok (h.push h.place.next)
  · exact agree_item h (agree_readClass h.place h.place.next)
  · exact agree_escape h
  · split
    · rename_i hc
      obtain ⟨read, htoken, hread⟩ := agree_readQuantifier options hc h.place
      rw [htoken]
      exact agree_quantifier h hread
    · rename_i hbar hopen hclose hany hclass hescape hquantifier
      have hread : Token.read options c cs = (.atom (ofChar options c), cs) := by
        obtain ⟨hoptional, hstar, hplus, hbrace⟩ : c ≠ '?' ∧ c ≠ '*' ∧ c ≠ '+' ∧ c ≠ '\x7b' := by
          simpa only [not_or] using hquantifier
        rw [Token.read] <;> assumption
      rw [hread]
      exact .ok (h.push h.place.next)

theorem run_nil (h : At text s.pos []) : InPlace.run options text s =
    match s.open_ with
    | [] => .ok s.frame.pattern
    | o :: _ => .error (.fault o.start .unclosedGroup) := by
  rw [InPlace.run]
  split <;> cases h.bump_nil.symm.trans ‹_ = _›
  rfl

theorem run_cons (h : At text s.pos (c :: cs)) : InPlace.run options text s =
    InPlace.step options text s c (s.pos + c.utf8Size) >>= InPlace.run options text := by
  rw [InPlace.run]
  split <;> cases h.bump_cons.symm.trans ‹_ = _›
  split <;> rename_i hstep <;> simp only [hstep] <;> rfl

/-- What is left of a text is put together in place as its lexemes are. -/
theorem agree_run (h : Stands text s cs (f, open_)) :
    Agree text Eq (InPlace.run options text s) (assemble (lexemes options cs) f open_) := by
  fun_induction lexemes options cs generalizing s f open_ with
  | case1 =>
    rw [run_nil h.place]
    obtain ⟨pos, frame, opened⟩ := s
    cases h.open_ with
    | nil => exact .ok (congrArg Frame.pattern h.frame)
    | cons hopens _ => exact .fault hopens.1
  | case2 c cs hlt ih =>
    rw [run_cons h.place, assemble_cons]
    exact (agree_step h).bind fun s' (f, open_) h' => ih h'

/-- A pattern text is read in place as it is read from what is left of it. -/
theorem agree_parse (text : String) (options : ParseOptions) :
    Agree text.toList Eq (InPlace.parse text options) (assemble (lexemes options text.toList) .start []) :=
  agree_run ⟨.start text.toList, rfl, .nil⟩

/-- A pattern read in place is the pattern put together from the lexemes, or the same error. -/
theorem InPlace.parse_eq (text : String) (options : ParseOptions) :
    InPlace.parse text options = (Pattern.parse text options).mapError Halt.ofError := by
  rw [(agree_parse text options).eq, Pattern.parse]
  cases assemble (lexemes options text.toList) .start [] <;> rfl

end Polymatch.Pattern
