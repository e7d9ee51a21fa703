import Polymatch.Error
import Polymatch.Pattern.Token

/-! # Parsing pattern texts

The tokens of a text are put together from left to right. Quantifiers apply to the
last item of the current branch; groups that are open enclose the current
alternation, and their label counts the groups opened before them at each depth.
-/

namespace Polymatch.Pattern

/-- An alternation being read; branches and items are held latest first. -/
structure Frame where
  branches : List Pattern
  items : List Pattern
  /-- Number of groups opened directly inside. -/
  groups : Nat

namespace Frame

def start : Frame := ⟨[], [], 0⟩

/-- The current branch. -/
def branch (f : Frame) : Pattern := inOrder f.items.reverse

/-- The alternation read so far. -/
def pattern (f : Frame) : Pattern := oneOf (f.branch :: f.branches).reverse

def nextBranch (f : Frame) : Frame := { f with branches := f.branch :: f.branches, items := [] }

def push (f : Frame) (p : Pattern) : Frame := { f with items := p :: f.items }

end Frame

/-- An open group: the text from its parenthesis on and the alternation around it. -/
structure OpenGroup where
  text : List Char
  around : Frame

/-- Label of the innermost of some open groups, given innermost first. -/
def openLabel (groups : List OpenGroup) : Label := (groups.map fun g => g.around.groups - 1).reverse

def assemble : List Lexeme → Frame → List OpenGroup → Except Fault Pattern
  | [], f, [] => .ok f.pattern
  | [], _, g :: _ => .error ⟨g.text, .unclosedGroup⟩
  | ⟨text, token⟩ :: rest, f, open_ =>
    match token with
    | .bar => assemble rest f.nextBranch open_
    | .opening => assemble rest .start (⟨text, { f with groups := f.groups + 1 }⟩ :: open_)
    | .closing =>
      match open_ with
      | [] => .error ⟨text, .unopenedGroup⟩
      | g :: others => assemble rest (g.around.push (group (openLabel open_) f.pattern)) others
    | .atom p => assemble rest (f.push p) open_
    | .badAtom fault => .error fault
    | .quantifier q =>
      match f.items with
      | [] => .error ⟨text, .nothingToRepeat⟩
      | p :: items => assemble rest { f with items := q.apply p :: items } open_
    | .badQuantifier fault =>
      if f.items.isEmpty then .error ⟨text, .nothingToRepeat⟩ else .error fault

/-- The pattern that a text denotes. -/
def parse (text : String) (options : ParseOptions) : Except ParseError Pattern :=
  match assemble (lexemes options text.toList) .start [] with
  | .ok p => .ok p
  | .error fault => .error (.ofFault text fault)

end Polymatch.Pattern
