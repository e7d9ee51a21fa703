import Polymatch.Interval
import Polymatch.Text.Units

/-! # Expressions of the conventional syntax

What a pattern in the conventional syntax means, in normal form: literals are runs
of bytes, classes are ascending intervals, and the functions that build
concatenations, alternations and repetitions flatten and simplify them.
-/

namespace Polymatch.Conventional

/-- Zero-width assertions. -/
inductive Look
  | start | «end» | startLF | endLF | startCRLF | endCRLF
  | wordAscii | wordAsciiNegate | wordUnicode | wordUnicodeNegate
  | wordStartAscii | wordEndAscii | wordStartUnicode | wordEndUnicode
  | wordStartHalfAscii | wordEndHalfAscii | wordStartHalfUnicode | wordEndHalfUnicode
  deriving DecidableEq, Repr, Inhabited

namespace Look

def name : Look → String
  | start => "Start"
  | «end» => "End"
  | startLF => "StartLF"
  | endLF => "EndLF"
  | startCRLF => "StartCRLF"
  | endCRLF => "EndCRLF"
  | wordAscii => "WordAscii"
  | wordAsciiNegate => "WordAsciiNegate"
  | wordUnicode => "WordUnicode"
  | wordUnicodeNegate => "WordUnicodeNegate"
  | wordStartAscii => "WordStartAscii"
  | wordEndAscii => "WordEndAscii"
  | wordStartUnicode => "WordStartUnicode"
  | wordEndUnicode => "WordEndUnicode"
  | wordStartHalfAscii => "WordStartHalfAscii"
  | wordEndHalfAscii => "WordEndHalfAscii"
  | wordStartHalfUnicode => "WordStartHalfUnicode"
  | wordEndHalfUnicode => "WordEndHalfUnicode"

def all : List Look :=
  [start, «end», startLF, endLF, startCRLF, endCRLF, wordAscii, wordAsciiNegate, wordUnicode,
   wordUnicodeNegate, wordStartAscii, wordEndAscii, wordStartUnicode, wordEndUnicode,
   wordStartHalfAscii, wordEndHalfAscii, wordStartHalfUnicode, wordEndHalfUnicode]

end Look

inductive Expr
  | empty
  /-- A run of bytes. -/
  | literal (bytes : List Nat)
  /-- One scalar value out of ascending intervals. -/
  | scalarClass (ranges : List Interval)
  /-- One byte out of ascending intervals. -/
  | byteClass (ranges : List Interval)
  | look (assertion : Look)
  | repetition (min : Nat) (max? : Option Nat) (greedy : Bool) (sub : Expr)
  | capture (index : Nat) (sub : Expr)
  | concat (subs : List Expr)
  | alternation (subs : List Expr)
  deriving Repr, Inhabited, BEq

namespace Expr

/-- The expression that matches nothing. -/
def fail : Expr := byteClass []

def ofBytes (bytes : List Nat) : Expr := if bytes.isEmpty then empty else literal bytes

def ofChar (c : Char) : Expr := literal (Text.bytes (String.singleton c))

/-- The only element of a class of one. -/
def single? : List Interval → Option Nat
  | [i] => if i.hi = i.lo + 1 then some i.lo else none
  | _ => none

/-- A class of scalar values; a class of one is a literal. -/
def ofScalars (ranges : List Interval) : Expr :=
  if ranges.isEmpty then fail
  else match single? ranges with
    | some n => ofChar (Char.ofNat n)
    | none => scalarClass ranges

/-- A class of bytes; a class of one is a literal. -/
def ofByteRanges (ranges : List Interval) : Expr :=
  if ranges.isEmpty then fail
  else match single? ranges with
    | some n => literal [n]
    | none => byteClass ranges

/-- Size of a scalar value in bytes. -/
def scalarSize (n : Nat) : Nat := (Char.ofNat n).utf8Size

def addMax : Option Nat → Option Nat → Option Nat
  | some a, some b => some (a + b)
  | _, _ => none

mutual

/-- The greatest number of bytes that an expression matches, if there is a bound. -/
def maxLength? : Expr → Option Nat
  | empty => some 0
  | literal bytes => some bytes.length
  | scalarClass ranges => ranges.getLast?.map fun i => scalarSize (i.hi - 1)
  | byteClass ranges => if ranges.isEmpty then none else some 1
  | look _ => some 0
  | repetition _ max? _ sub =>
    match max?, maxLength? sub with
    | some m, some n => some (n * m)
    | _, _ => none
  | capture _ sub => maxLength? sub
  | concat subs => sumLengths? subs
  | alternation subs => maxOfLengths? subs

def sumLengths? : List Expr → Option Nat
  | [] => some 0
  | e :: rest => addMax (maxLength? e) (sumLengths? rest)

def maxOfLengths? : List Expr → Option Nat
  | [] => some 0
  | e :: rest =>
    match maxLength? e, maxOfLengths? rest with
    | some a, some b => some (max a b)
    | _, _ => none

end

/-- A repetition. What matches the empty input alone is repeated at most once, no copy is the empty
expression, and one copy is the expression itself. -/
def repeated (min : Nat) (max? : Option Nat) (greedy : Bool) (sub : Expr) : Expr :=
  let blank := maxLength? sub == some 0
  let min := if blank then Nat.min min 1 else min
  let max? := if blank then some (Nat.min (max?.getD 1) 1) else max?
  if min = 0 && max? = some 0 then empty
  else if min = 1 && max? = some 1 then sub
  else repetition min max? greedy sub

/-- The parts of a concatenation. -/
def parts : Expr → List Expr
  | concat subs => subs
  | e => [e]

/-- Put an expression in front of others, without empty ones and with adjacent literals joined. -/
def joinFront : Expr → List Expr → List Expr
  | empty, rest => rest
  | literal a, literal b :: rest => literal (a ++ b) :: rest
  | e, rest => e :: rest

/-- The expressions in order. -/
def inOrder (subs : List Expr) : Expr :=
  match (subs.flatMap parts).foldr joinFront [] with
  | [] => empty
  | [e] => e
  | es => concat es

/-- The branches of an alternation. -/
def branches : Expr → List Expr
  | alternation subs => subs
  | e => [e]

/-- The scalar value of a literal of one character. -/
def char? : Expr → Option Nat
  | literal bytes =>
    match (Text.ofBytes? bytes).map String.toList with
    | some [c] => some c.toNat
    | _ => none
  | _ => none

/-- The byte of a literal of one byte. -/
def byte? : Expr → Option Nat
  | literal [b] => some b
  | _ => none

def isAscii (ranges : List Interval) : Bool := ranges.all (·.hi ≤ 0x80)

/-- The scalar values of a class, if it has no bytes that are none. -/
def scalars? : Expr → Option (List Interval)
  | scalarClass ranges => some ranges
  | byteClass ranges => if isAscii ranges then some ranges else none
  | _ => none

def bytes? : Expr → Option (List Interval)
  | byteClass ranges => some ranges
  | scalarClass ranges => if isAscii ranges then some ranges else none
  | _ => none

/-- One class for branches that are all single characters, all single bytes, or all classes. -/
def asClass? (subs : List Expr) : Option Expr :=
  match subs.mapM char? with
  | some chars => some (ofScalars (Interval.normalize (chars.map .single)))
  | none =>
    match subs.mapM byte? with
    | some bytes => some (ofByteRanges (Interval.normalize (bytes.map .single)))
    | none =>
      match subs.mapM scalars? with
      | some classes => some (ofScalars (Interval.normalize classes.flatten))
      | none => (subs.mapM bytes?).map fun classes => ofByteRanges (Interval.normalize classes.flatten)

/-- The parts of an expression that is a concatenation. -/
def concat? : Expr → Option (List Expr)
  | concat subs => some subs
  | _ => none

def commonPrefix : List Expr → List Expr → List Expr
  | a :: as, b :: bs => if a == b then a :: commonPrefix as bs else []
  | _, _ => []

/-- The parts that all of some concatenations start with. -/
def sharedPrefix : List (List Expr) → List Expr
  | [] => []
  | first :: rest => rest.foldl commonPrefix first

/-- One of the expressions. Branches that are concatenations with common first parts share them;
the suffixes of such branches differ at the start, so `fuel` bounds the depth of sharing. -/
def oneOfWithin : Nat → List Expr → Expr
  | 0, subs => alternation subs
  | fuel + 1, subs =>
    match subs.flatMap branches with
    | [] => fail
    | [e] => e
    | es =>
      match asClass? es with
      | some e => e
      | none =>
        match es.mapM concat? with
        | none => alternation es
        | some concats =>
          match sharedPrefix concats with
          | [] => alternation es
          | shared =>
            let suffixes := concats.map fun c => inOrder (c.drop shared.length)
            inOrder (shared ++ [oneOfWithin fuel suffixes])

mutual

/-- Number of nodes of an expression. -/
def weight : Expr → Nat
  | repetition _ _ _ sub => weight sub + 1
  | capture _ sub => weight sub + 1
  | concat subs => weights subs + 1
  | alternation subs => weights subs + 1
  | _ => 1

def weights : List Expr → Nat
  | [] => 0
  | e :: rest => weight e + weights rest

end

/-- One of the expressions. -/
def oneOf (subs : List Expr) : Expr := oneOfWithin (weights subs + 1) subs

end Expr

end Polymatch.Conventional
