import Polymatch.Interval
import Polymatch.Unicode.Case

/-! # Sets of scalar values and of bytes

Sets of characters are ascending lists of intervals. The ends of an interval of
scalar values are never surrogates, although surrogates may lie inside: what a
complement or a difference cuts off at a surrogate ends at the next scalar value.
-/

namespace Polymatch.Conventional

/-- What the members of a set are. -/
inductive Universe
  | scalars
  | bytes
  deriving DecidableEq, Repr, Inhabited

namespace Universe

def limit : Universe → Nat
  | scalars => 0x110000
  | bytes => 0x100

def firstSurrogate : Nat := 0xD800

def behindSurrogates : Nat := 0xE000

/-- Move ends that lie at the surrogates outwards. -/
def trim : Universe → Interval → Interval
  | scalars, i =>
    ⟨if i.lo = firstSurrogate then behindSurrogates else i.lo,
      if i.hi = behindSurrogates then firstSurrogate else i.hi⟩
  | bytes, i => i

/-- The members outside a set. A gap of nothing but surrogates counts with its two neighbours. -/
def complement (u : Universe) (l : List Interval) : List Interval :=
  (Interval.complement l u.limit).map fun i =>
    let i := u.trim i
    if i.isEmpty then ⟨i.hi - 1, i.lo + 1⟩ else i

/-- The members of both of two sets. -/
def intersection (a b : List Interval) : List Interval :=
  a.flatMap fun i => (b.map fun j => ⟨max i.lo j.lo, min i.hi j.hi⟩).filter (!·.isEmpty)

/-- The members of `a` outside `b`. -/
def difference (u : Universe) (a b : List Interval) : List Interval :=
  a.flatMap fun i => ((Interval.gaps i.lo i.hi b).map u.trim).filter (!·.isEmpty)

/-- The members of exactly one of two sets. -/
def symmetricDifference (u : Universe) (a b : List Interval) : List Interval :=
  u.difference (Interval.normalize (a ++ b)) (intersection a b)

def casePairs : List (Nat × Nat) :=
  Unicode.Case.fold.flatMap fun r =>
    (List.range ((r.last - r.first) / r.step + 1)).map fun k =>
      (r.first + k * r.step, r.apply (r.first + k * r.step))

/-- The members of a set and all characters that differ from one of them in case only. -/
def foldScalars (l : List Interval) : List Interval :=
  let folded := (casePairs.filter fun (c, d) => Interval.covers l c || Interval.covers l d).map (·.2)
  let variants := casePairs.filter fun (_, d) => folded.contains d
  Interval.normalize (l ++ variants.flatMap fun (c, d) => [.single c, .single d])

/-- The intervals of a set inside a window, moved up by `offset`. -/
def moveWindow (window : Interval) (move : Nat → Nat) (l : List Interval) : List Interval :=
  (intersection l [window]).map fun i => ⟨move i.lo, move i.hi⟩

def upperLetters : Interval := ⟨0x41, 0x5B⟩

def lowerLetters : Interval := ⟨0x61, 0x7B⟩

/-- Add the basic letters of the other case. -/
def foldBytes (l : List Interval) : List Interval :=
  Interval.normalize (l ++ moveWindow upperLetters (· + 0x20) l ++ moveWindow lowerLetters (· - 0x20) l)

def foldCase : Universe → List Interval → List Interval
  | scalars => foldScalars
  | bytes => foldBytes

end Universe

end Polymatch.Conventional
