import Polymatch.Pattern.Parser
import Polymatch.Text.Slice

/-! # Reading patterns in place

A pattern text read by its byte offsets. The reader holds the offset it has come to and
the offsets at which open constructs start, and looks at the text by slices alone.
-/

namespace Polymatch.Pattern.InPlace

open Text (byteSize bump eat peek slice sliceFrom)

/-- The number with some hexadecimal digits. -/
def hexValue? (digits : List Char) : Option Nat :=
  digits.foldlM (fun n c => (16 * n + ·) <$> Escape.hexDigit? c) 0

/-- Read what follows a backslash. -/
def readEscape (text : List Char) (pos : Nat) : Except Halt (Escape × Nat) :=
  match bump text pos with
  | .error halt => .error halt
  | .ok (none, _) => .error (.fault (pos - 1) .danglingEscape)
  | .ok (some c, next) =>
    if c = 'u' then
      match (slice text next (next + 4)).toOption.bind hexValue? with
      | some u => .ok (.unit u, next + 4)
      | none => .error (.fault (pos - 1) .invalidUnicodeEscape)
    else
      match Escape.named? c with
      | some e => .ok (e, next)
      | none =>
        if Escape.metacharacters.contains c then .ok (.unit c.toNat, next)
        else .error (.fault (pos - 1) (.unknownEscape c))

theorem le_of_readEscape {text : List Char} {pos next : Nat} {e : Escape}
    (h : readEscape text pos = .ok (e, next)) : pos ≤ next := by
  unfold readEscape at h
  split at h
  · cases h
  · cases h
  · rename_i hc
    have hlt := (Text.lt_of_bump hc).2
    split at h
    · split at h <;> cases h
      omega
    · split at h
      · cases h
        exact Nat.le_of_lt hlt
      · split at h <;> cases h
        exact Nat.le_of_lt hlt

/-- Read the unit or class escape of a class that starts with the character `c` at offset `pos`. -/
def readClassAtom (text : List Char) (pos : Nat) (c : Char) (next : Nat) : Except Halt (Escape × Nat) :=
  if c = '\\' then readEscape text next
  else if c.toNat < Text.unitLimit then .ok (.unit c.toNat, next)
  else .error (.fault pos (.outOfRange c))

theorem le_of_readClassAtom {text : List Char} {pos next behind : Nat} {c : Char} {e : Escape}
    (h : readClassAtom text pos c next = .ok (e, behind)) : next ≤ behind := by
  unfold readClassAtom at h
  split at h
  · exact le_of_readEscape h
  · split at h <;> cases h
    exact Nat.le_refl _

/-- Read the upper end of the range that starts with unit `lo` at offset `item`, in the class that starts at
offset `start`. -/
def readRangeEnd (text : List Char) (start item lo pos : Nat) : Except Halt (Interval × Nat) :=
  match bump text pos with
  | .error halt => .error halt
  | .ok (none, _) => .error (.fault start .unclosedClass)
  | .ok (some c, next) =>
    match readClassAtom text pos c next with
    | .error halt => .error halt
    | .ok (.ranges _, _) => .error (.fault item (.invalidRange (Text.charOfUnit lo) '\\'))
    | .ok (.unit hi, behind) =>
      if hi < lo then .error (.fault item (.invalidRange (Text.charOfUnit lo) (Text.charOfUnit hi)))
      else .ok (⟨lo, hi + 1⟩, behind)

theorem le_of_readRangeEnd {text : List Char} {start item lo pos behind : Nat} {i : Interval}
    (h : readRangeEnd text start item lo pos = .ok (i, behind)) : pos ≤ behind := by
  unfold readRangeEnd at h
  split at h
  · cases h
  · cases h
  · rename_i hc
    have hlt := (Text.lt_of_bump hc).2
    split at h
    · cases h
    · cases h
    · rename_i hatom
      split at h <;> cases h
      exact Nat.le_trans (Nat.le_of_lt hlt) (le_of_readClassAtom hatom)

/-- A hyphen makes a range of the unit in front of it if the class goes on behind it. -/
def startsRange (rest : List Char) : Bool :=
  ['-'].isPrefixOf rest && !(['-', ']'].isPrefixOf rest) && 1 < byteSize rest

/-- Read the item of a class that starts with the character `c` at offset `item`. -/
def readClassItem (text : List Char) (start item : Nat) (c : Char) (next : Nat) :
    Except Halt (List Interval × Nat) :=
  match readClassAtom text item c next with
  | .error halt => .error halt
  | .ok (.ranges l, behind) => .ok (l, behind)
  | .ok (.unit lo, behind) =>
    match sliceFrom text behind with
    | .error halt => .error halt
    | .ok rest =>
      if startsRange rest then (fun (i, stop) => ([i], stop)) <$> readRangeEnd text start item lo (behind + 1)
      else .ok ([.single lo], behind)

theorem le_of_readClassItem {text : List Char} {start item next stop : Nat} {c : Char} {l : List Interval}
    (h : readClassItem text start item c next = .ok (l, stop)) : next ≤ stop := by
  unfold readClassItem at h
  split at h
  · cases h
  · rename_i hatom
    cases h
    exact le_of_readClassAtom hatom
  · rename_i lo behind hatom
    have hle := le_of_readClassAtom hatom
    split at h
    · cases h
    · split at h
      · cases hend : readRangeEnd text start item lo (behind + 1) with
        | error halt => rw [hend] at h; cases h
        | ok read =>
          rw [hend] at h
          cases h
          have := le_of_readRangeEnd hend
          omega
      · cases h
        exact hle

/-- Read the items of the class that starts at offset `start`, up to its closing bracket. -/
def readClassItems (text : List Char) (start pos : Nat) : Except Halt (List Interval × Nat) :=
  match hc : bump text pos with
  | .error halt => .error halt
  | .ok (none, _) => .error (.fault start .unclosedClass)
  | .ok (some c, next) =>
    if c = ']' then .ok ([], next)
    else
      match hitem : readClassItem text start pos c next with
      | .error halt => .error halt
      | .ok (l, behind) =>
        have := Text.lt_of_bump hc
        have := le_of_readClassItem hitem
        (fun (later, stop) => (l ++ later, stop)) <$> readClassItems text start behind
termination_by byteSize text - pos

/-- Read the class that starts at offset `start`, from behind its bracket. -/
def readClass (options : ParseOptions) (text : List Char) (start pos : Nat) : Except Halt (Pattern × Nat) :=
  match eat text '^' pos with
  | .error halt => .error halt
  | .ok (negated, next) =>
    (fun (l, stop) => (symbols (classRanges options negated l), stop)) <$> readClassItems text start next

theorem le_of_readClassItems {text : List Char} {start pos stop : Nat} {l : List Interval}
    (h : readClassItems text start pos = .ok (l, stop)) : pos ≤ stop := by
  fun_induction readClassItems text start pos generalizing l with
  | case1 => cases h
  | case2 => cases h
  | case3 pos next hc =>
    cases h
    exact Nat.le_of_lt (Text.lt_of_bump hc).2
  | case4 => cases h
  | case5 pos c next hc _ first behind hitem hlt hle ih =>
    cases hrest : readClassItems text start behind with
    | error halt => rw [hrest] at h; cases h
    | ok read =>
      rw [hrest] at h
      cases h
      have := ih hrest
      omega

theorem le_of_readClass {options : ParseOptions} {text : List Char} {start pos stop : Nat} {p : Pattern}
    (h : readClass options text start pos = .ok (p, stop)) : pos ≤ stop := by
  rw [readClass] at h
  split at h
  · cases h
  · rename_i negated next heat
    cases hitems : readClassItems text start next with
    | error halt => rw [hitems] at h; cases h
    | ok read =>
      rw [hitems] at h
      cases h
      exact Nat.le_trans (Text.le_of_eat heat) (le_of_readClassItems hitems)

/-- The offset behind the digits from an offset on. -/
def skipDigits (text : List Char) (pos : Nat) : Except Halt Nat :=
  match hc : peek text pos with
  | .error halt => .error halt
  | .ok none => .ok pos
  | .ok (some c) =>
    have := Text.lt_of_peek hc
    if c.isDigit then skipDigits text (pos + 1) else .ok pos
termination_by byteSize text - pos

theorem le_of_skipDigits {text : List Char} {pos stop : Nat} (h : skipDigits text pos = .ok stop) :
    pos ≤ stop := by
  fun_induction skipDigits text pos with
  | case1 => cases h
  | case2 => cases h; exact Nat.le_refl _
  | case3 pos c hc hlt hdigit ih => exact Nat.le_of_succ_le (ih h)
  | case4 => cases h; exact Nat.le_refl _

/-- Read the counts of the quantifier that starts at offset `start`, up to its closing brace. -/
def readCounts (text : List Char) (start pos : Nat) : Except Halt (List (Option Nat) × Nat) :=
  match hstop : skipDigits text pos with
  | .error halt => .error halt
  | .ok stop =>
    match slice text pos stop with
    | .error halt => .error halt
    | .ok digits =>
      match Quantifier.count digits with
      | .error kind => .error (.fault pos kind)
      | .ok value =>
        match hc : bump text stop with
        | .error halt => .error halt
        | .ok (some ',', next) =>
          have := le_of_skipDigits hstop
          have := Text.lt_of_bump hc
          (fun (later, behind) => (value :: later, behind)) <$> readCounts text start next
        | .ok (some '\x7d', next) => .ok ([value], next)
        | .ok _ => .error (.fault start (.invalidQuantifier .separatorExpected))
termination_by byteSize text - pos

theorem le_of_readCounts {text : List Char} {start pos behind : Nat} {values : List (Option Nat)}
    (h : readCounts text start pos = .ok (values, behind)) : pos ≤ behind := by
  fun_induction readCounts text start pos generalizing values with
  | case5 pos stop hstop digits hdigits value hvalue next hc hle hlt ih =>
    cases hrest : readCounts text start next with
    | error halt => rw [hrest] at h; cases h
    | ok read =>
      rw [hrest] at h
      cases h
      have := ih hrest
      omega
  | case6 pos stop hstop digits hdigits value hvalue next hc =>
    cases h
    have := le_of_skipDigits hstop
    have := (Text.lt_of_bump hc).2
    omega
  | _ => cases h

/-- Read the mark of an exclusive loop, if there is one. -/
def readPolicy (text : List Char) (pos : Nat) : Except Halt (LoopPolicy × Nat) :=
  match eat text '!' pos with
  | .error halt => .error halt
  | .ok (true, next) => .ok (.limiting, next)
  | .ok (false, _) =>
    match eat text '^' pos with
    | .error halt => .error halt
    | .ok (true, next) => .ok (.extending, next)
    | .ok (false, _) => .ok (.plain, pos)

theorem le_of_readPolicy {text : List Char} {pos next : Nat} {policy : LoopPolicy}
    (h : readPolicy text pos = .ok (policy, next)) : pos ≤ next := by
  rw [readPolicy] at h
  split at h
  · cases h
  · rename_i heat
    cases h
    exact Text.le_of_eat heat
  · split at h
    · cases h
    · rename_i heat
      cases h
      exact Text.le_of_eat heat
    · cases h
      exact Nat.le_refl _

theorem le_of_map_readPolicy {text : List Char} {pos next : Nat} {f : LoopPolicy → Quantifier} {q : Quantifier}
    (h : (fun (policy, next) => (f policy, next)) <$> readPolicy text pos = .ok (q, next)) : pos ≤ next := by
  cases hpolicy : readPolicy text pos with
  | error halt => rw [hpolicy] at h; cases h
  | ok read =>
    rw [hpolicy] at h
    cases h
    exact le_of_readPolicy hpolicy

/-- The quantifier with given counts that starts at offset `start`; a loop may have a mark behind them. -/
def ofCounts (text : List Char) (start : Nat) (values : List (Option Nat)) (pos : Nat) :
    Except Halt (Quantifier × Nat) :=
  match values with
  | [some n] => .ok (.times [n], pos)
  | [some min, none] => (fun (policy, next) => (.loop min policy, next)) <$> readPolicy text pos
  | [some min, some max] =>
    if min ≤ max then .ok (.times (List.range' min (max + 1 - min)), pos)
    else .error (.fault start (.invalidQuantifier (.minAboveMax min max)))
  | values =>
    if 2 < values.length && values.all Option.isSome then .ok (.times (values.filterMap id), pos)
    else .error (.fault start (.invalidQuantifier .missingCount))

theorem le_of_ofCounts {text : List Char} {start pos next : Nat} {values : List (Option Nat)} {q : Quantifier}
    (h : ofCounts text start values pos = .ok (q, next)) : pos ≤ next := by
  unfold ofCounts at h
  split at h
  · cases h
    exact Nat.le_refl _
  · exact le_of_map_readPolicy h
  · split at h <;> cases h
    exact Nat.le_refl _
  · split at h <;> cases h
    exact Nat.le_refl _

/-- Read the quantifier that starts with the character `c` at offset `start`. -/
def readQuantifier (text : List Char) (start : Nat) (c : Char) (next : Nat) : Except Halt (Quantifier × Nat) :=
  if c = '?' then .ok (.optional, next)
  else if c = '*' then (fun (policy, behind) => (.loop 0 policy, behind)) <$> readPolicy text next
  else if c = '+' then (fun (policy, behind) => (.loop 1 policy, behind)) <$> readPolicy text next
  else
    match readCounts text start next with
    | .error halt => .error halt
    | .ok (values, behind) => ofCounts text start values behind

theorem le_of_readQuantifier {text : List Char} {start next behind : Nat} {c : Char} {q : Quantifier}
    (h : readQuantifier text start c next = .ok (q, behind)) : next ≤ behind := by
  unfold readQuantifier at h
  split at h
  · cases h
    exact Nat.le_refl _
  · split at h
    · exact le_of_map_readPolicy h
    · split at h
      · exact le_of_map_readPolicy h
      · split at h
        · cases h
        · rename_i hcounts
          exact Nat.le_trans (le_of_readCounts hcounts) (le_of_ofCounts h)

/-- An open group: the offset of its parenthesis and the alternation around it. -/
structure Opening where
  start : Nat
  around : Frame

/-- What has been read up to an offset: the alternation there, and the groups open around it. -/
structure State where
  pos : Nat
  frame : Frame
  open_ : List Opening

/-- Label of the innermost open group. -/
def State.label (s : State) : Label := (s.open_.map fun o => o.around.groups - 1).reverse

/-- The state behind an item of the current branch. -/
def State.item (s : State) (read : Pattern × Nat) : State := { s with pos := read.2, frame := s.frame.push read.1 }

/-- Read the bar, parenthesis, atom or quantifier that starts with the character `c`. -/
def step (options : ParseOptions) (text : List Char) (s : State) (c : Char) (next : Nat) : Except Halt State :=
  match c with
  | '|' => .ok { s with pos := next, frame := s.frame.nextBranch }
  | '(' => .ok ⟨next, .start, ⟨s.pos, { s.frame with groups := s.frame.groups + 1 }⟩ :: s.open_⟩
  | ')' =>
    match s.open_ with
    | [] => .error (.fault s.pos .unopenedGroup)
    | o :: others => .ok ⟨next, o.around.push (group s.label s.frame.pattern), others⟩
  | '.' => .ok (s.item (any, next))
  | '[' => s.item <$> readClass options text s.pos next
  | '\\' =>
    match readEscape text next with
    | .error halt => .error halt
    | .ok (.unit u, behind) => .ok (s.item (ofUnit options u, behind))
    | .ok (.ranges l, behind) => .ok (s.item (ofRanges l, behind))
  | c =>
    if c = '?' ∨ c = '*' ∨ c = '+' ∨ c = '\x7b' then
      match s.frame.items with
      | [] => .error (.fault s.pos .nothingToRepeat)
      | p :: items =>
        (fun (q, behind) => { s with pos := behind, frame := { s.frame with items := q.apply p :: items } }) <$>
          readQuantifier text s.pos c next
    else .ok (s.item (ofChar options c, next))

theorem le_of_step {options : ParseOptions} {text : List Char} {s s' : State} {c : Char} {next : Nat}
    (h : step options text s c next = .ok s') : next ≤ s'.pos := by
  unfold step at h
  split at h
  · cases h
    exact Nat.le_refl _
  · cases h
    exact Nat.le_refl _
  · split at h <;> cases h
    exact Nat.le_refl _
  · cases h
    exact Nat.le_refl _
  · cases hclass : readClass options text s.pos next with
    | error halt => rw [hclass] at h; cases h
    | ok read =>
      rw [hclass] at h
      cases h
      exact le_of_readClass hclass
  · split at h
    · cases h
    · rename_i hescape
      cases h
      exact le_of_readEscape hescape
    · rename_i hescape
      cases h
      exact le_of_readEscape hescape
  · split at h
    · split at h
      · cases h
      · rename_i q items hitems
        cases hq : readQuantifier text s.pos c next with
        | error halt => rw [hq] at h; cases h
        | ok read =>
          rw [hq] at h
          cases h
          exact le_of_readQuantifier hq
    · cases h
      exact Nat.le_refl _

/-- Read on to the end of the text. -/
def run (options : ParseOptions) (text : List Char) (s : State) : Except Halt Pattern :=
  match hc : bump text s.pos with
  | .error halt => .error halt
  | .ok (none, _) =>
    match s.open_ with
    | [] => .ok s.frame.pattern
    | o :: _ => .error (.fault o.start .unclosedGroup)
  | .ok (some c, next) =>
    match hstep : step options text s c next with
    | .error halt => .error halt
    | .ok s' =>
      have := Text.lt_of_bump hc
      have := le_of_step hstep
      run options text s'
termination_by byteSize text - s.pos

/-- The pattern that a text denotes, read in place. -/
def parse (text : String) (options : ParseOptions) : Except Halt Pattern :=
  run options text.toList ⟨0, .start, []⟩

end Polymatch.Pattern.InPlace
