import Polymatch.Conventional.Expr
import Polymatch.Conventional.Parser
import Polymatch.Conventional.Pattern
import Polymatch.Conventional.Property

/-! # The meaning of trees

Flags say what a literal, a dot, a class or an assertion stands for. A directive
holds up to the end of the group around it, across the branches of an alternation.
Without the Unicode flag classes hold bytes, and since patterns match text, only
basic characters are allowed there.
-/

namespace Polymatch.Conventional

structure Flags where
  ignoreCase : Bool
  multiLine : Bool
  dotAll : Bool
  swapGreed : Bool
  unicode : Bool
  crlf : Bool
  deriving DecidableEq, Repr

namespace Flags

/-- The flags at the start of a text. -/
def initial (ignoreCase : Bool) : Flags := ⟨ignoreCase, false, false, false, true, false⟩

def set (f : Flags) : Flag × Bool → Flags
  | (.ignoreCase, on) => { f with ignoreCase := on }
  | (.multiLine, on) => { f with multiLine := on }
  | (.dotAll, on) => { f with dotAll := on }
  | (.swapGreed, on) => { f with swapGreed := on }
  | (.unicode, on) => { f with unicode := on }
  | (.crlf, on) => { f with crlf := on }
  | (.verbose, _) => f

def apply (f : Flags) (d : Directive) : Flags := d.foldl set f

/-- What classes hold. -/
def members (f : Flags) : Universe := if f.unicode then .scalars else .bytes

/-- Bytes beyond the basic characters would match parts of characters. -/
def check (f : Flags) (l : List Interval) : Except Fault (List Interval) :=
  if f.unicode || Expr.isAscii l then .ok l else .error .invalidUtf8

def fold (f : Flags) (l : List Interval) : List Interval :=
  if f.ignoreCase then f.members.foldCase l else l

def negateIf (f : Flags) (negated : Bool) (l : List Interval) : Except Fault (List Interval) :=
  f.check (if negated then f.members.complement l else l)

/-- A class has its case folded before it is negated. -/
def finishClass (f : Flags) (negated : Bool) (l : List Interval) : Except Fault (List Interval) :=
  f.negateIf negated (f.fold l)

def classExpr (f : Flags) (l : List Interval) : Expr :=
  if f.unicode then Expr.ofScalars l else Expr.ofByteRanges l

/-- The shorthands already contain both cases of their members. -/
def shorthand (f : Flags) (kind : Shorthand) (negated : Bool) : Except Fault (List Interval) :=
  f.negateIf negated (kind.members f.members)

def property (f : Flags) (query : PropertyQuery) (negated : Bool) : Except Fault (List Interval) :=
  if f.unicode then do f.finishClass negated (← query.members) else .error .unicodeNotAllowed

/-- The number of a character in a class. -/
def point (f : Flags) (l : Literal) : Except Fault Nat :=
  if f.unicode || l.char.toNat < 0x80 then .ok l.char.toNat
  else .error (if l.twoDigits then .invalidUtf8 else .unicodeNotAllowed)

def literal (f : Flags) (l : Literal) : Except Fault Expr :=
  if !f.unicode && l.twoDigits && 0x80 ≤ l.char.toNat then .error .invalidUtf8
  else if f.ignoreCase && (f.unicode || l.char.isAlpha) then
    .ok (f.classExpr (f.members.foldCase [.single l.char.toNat]))
  else .ok (Expr.ofChar l.char)

def look (f : Flags) : Assertion → Look
  | .lineStart => if f.multiLine then (if f.crlf then .startCRLF else .startLF) else .start
  | .lineEnd => if f.multiLine then (if f.crlf then .endCRLF else .endLF) else .end
  | .textStart => .start
  | .textEnd => .end
  | .wordBoundary => if f.unicode then .wordUnicode else .wordAscii
  | .notWordBoundary => if f.unicode then .wordUnicodeNegate else .wordAsciiNegate
  | .wordStart => if f.unicode then .wordStartUnicode else .wordStartAscii
  | .wordEnd => if f.unicode then .wordEndUnicode else .wordEndAscii
  | .wordStartHalf => if f.unicode then .wordStartHalfUnicode else .wordStartHalfAscii
  | .wordEndHalf => if f.unicode then .wordEndHalfUnicode else .wordEndHalfAscii

/-- Any character but the ends of lines, or any character at all. -/
def dot (f : Flags) : Except Fault Expr :=
  if !f.unicode then .error .invalidUtf8
  else
    let excluded := if f.dotAll then [] else if f.crlf then [.single 0x0A, .single 0x0D] else [.single 0x0A]
    .ok (Expr.ofScalars (Universe.scalars.complement excluded))

def atom (f : Flags) : Atom → Except Fault Expr
  | .literal l => f.literal l
  | .shorthand kind negated => f.classExpr <$> f.shorthand kind negated
  | .property query negated => f.classExpr <$> f.property query negated
  | .assertion a => .ok (.look (f.look a))

end Flags

namespace ClassSet

def operate (f : Flags) (op : SetOperator) (a b : List Interval) : List Interval :=
  match op with
  | .intersection => Universe.intersection a b
  | .difference => f.members.difference a b
  | .symmetricDifference => f.members.symmetricDifference a b

mutual

/-- The members of a class under some flags. -/
def members (f : Flags) : ClassSet → Except Fault (List Interval)
  | literal l => do return [.single (← f.point l)]
  | range lo hi => do return [⟨← f.point lo, (← f.point hi) + 1⟩]
  | ascii kind negated => f.finishClass negated kind.members
  | shorthand kind negated => f.shorthand kind negated
  | property query negated => f.property query negated
  | bracketed negated set => do f.finishClass negated (← members f set)
  | union items => Interval.normalize <$> allMembers f items
  | operation op lhs rhs => do
    let a ← members f lhs
    let b ← members f rhs
    return operate f op (f.fold a) (f.fold b)

def allMembers (f : Flags) : List ClassSet → Except Fault (List Interval)
  | [] => .ok []
  | item :: items => do
    let first ← members f item
    let others ← allMembers f items
    return first ++ others

end

end ClassSet

namespace Tree

mutual

/-- The expression of a tree under the flags in front of it, with the flags behind it. -/
def expr (f : Flags) : Tree → Except Fault (Expr × Flags)
  | empty => .ok (.empty, f)
  | directive d => .ok (.empty, f.apply d)
  | atom a => (·, f) <$> f.atom a
  | dot => (·, f) <$> f.dot
  | bracketed negated set => do
    let l ← f.finishClass negated (← set.members f)
    return (f.classExpr l, f)
  | repetition min max? greedy sub => do
    let (e, g) ← expr f sub
    return (Expr.repeated min max? (greedy != g.swapGreed) e, g)
  | group (.capture index) sub => do
    let (e, _) ← expr f sub
    return (.capture index e, f)
  | group (.scope d) sub => do
    let (e, _) ← expr (f.apply d) sub
    return (e, f)
  | alternation branches => do
    let (es, f) ← exprs f branches
    return (Expr.oneOf es, f)
  | concat items => do
    let (es, f) ← exprs f items
    return (Expr.inOrder es, f)

def exprs (f : Flags) : List Tree → Except Fault (List Expr × Flags)
  | [] => .ok ([], f)
  | t :: rest => do
    let (e, f) ← expr f t
    let (es, f) ← exprs f rest
    return (e :: es, f)

end

end Tree

/-- The expression of a text. -/
def Expr.parse (text : String) (ignoreCase : Bool) : Except Fault Expr := do
  let tree ← Tree.parse text
  let (e, _) ← tree.expr (.initial ignoreCase)
  return e

/-- The pattern that a text in the conventional syntax denotes. -/
def parse (text : String) (options : Pattern.ParseOptions) : Except BuildError Pattern :=
  match Expr.parse text options.ignoreCase with
  | .error fault => .error (.conventional fault)
  | .ok e => e.toPattern

end Polymatch.Conventional
