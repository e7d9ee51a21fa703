import Polymatch.Conventional.Expr
import Polymatch.Error
import Polymatch.Pattern.Token

/-! # Patterns of the conventional syntax

Expressions become patterns over 16-bit units. Classes are cut down to the basic
plane, while literals outside it become pairs of units. Assertions have no
counterpart.
-/

namespace Polymatch.Conventional.Expr

/-- The units of a literal, or its bytes if they are no text. -/
def literalPattern (bytes : List Nat) : Pattern :=
  match Text.ofBytes? bytes with
  | some text => .literal text
  | none => .inOrder (bytes.map .symbol)

/-- The part of a class that lies in the basic plane. -/
def basicRanges (ranges : List Interval) : List Interval :=
  (ranges.filter (·.lo < Text.unitLimit)).map fun r => ⟨r.lo, min r.hi Text.unitLimit⟩

def scalarPattern (ranges : List Interval) : Except BuildError Pattern :=
  let basic := basicRanges ranges
  if basic.isEmpty && !ranges.isEmpty then .error .unsupportedClass else .ok (.ofRanges basic)

mutual

/-- The pattern of an expression inside the groups on `path`, after `next` other groups there;
answers also the number of groups there behind it. -/
def patternWithin (path : Label) (next : Nat) : Expr → Except BuildError (Pattern × Nat)
  | empty => .ok (.empty, next)
  | literal bytes => .ok (literalPattern bytes, next)
  | scalarClass ranges => (scalarPattern ranges).map (·, next)
  | byteClass ranges => .ok (.ofRanges ranges, next)
  | look assertion => .error (.unsupportedLook assertion.name)
  | repetition min max? _ sub =>
    match patternWithin path next sub with
    | .error e => .error e
    | .ok (body, next) =>
      match max? with
      | none => .ok (.loop body min .plain, next)
      | some max =>
        if Pattern.maxRepeat < max then .error (.unsupportedRepetition min max Pattern.maxRepeat)
        else .ok (.times body (List.range' min (max + 1 - min)), next)
  | capture _ sub =>
    match patternWithin (path ++ [next]) 0 sub with
    | .error e => .error e
    | .ok (body, _) => .ok (.group (path ++ [next]) body, next + 1)
  | concat subs => (patternsWithin path next subs).map fun (items, next) => (.inOrder items, next)
  | alternation subs => (patternsWithin path next subs).map fun (items, next) => (.oneOf items, next)

def patternsWithin (path : Label) (next : Nat) : List Expr → Except BuildError (List Pattern × Nat)
  | [] => .ok ([], next)
  | e :: rest =>
    match patternWithin path next e with
    | .error e => .error e
    | .ok (p, next) => (patternsWithin path next rest).map fun (ps, next) => (p :: ps, next)

end

/-- The pattern of an expression. -/
def toPattern (e : Expr) : Except BuildError Pattern := (patternWithin [] 0 e).map (·.1)

end Polymatch.Conventional.Expr
