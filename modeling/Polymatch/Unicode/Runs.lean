import Polymatch.Interval

/-! # Run lengths along the code points

Properties of code points are stored as text: the lengths of the stretches along
the code points in hexadecimal, separated by blanks. A tagged run starts with a
label of fixed width; the runs of a binary property are alternately outside and
inside.
-/

namespace Polymatch.Unicode

/-- The number of a hexadecimal numeral. -/
def hexNumber (digits : List Char) : Nat :=
  digits.foldl (fun n c => 16 * n + (if c.isDigit then c.toNat - 48 else c.toLower.toNat - 87)) 0

/-- The blank-separated words of some lines. -/
def words (lines : List String) : List (List Char) :=
  lines.flatMap fun line =>
    let (last, rest) := line.toList.foldr
      (fun c (word, rest) => if c = ' ' then ([], word :: rest) else (c :: word, rest)) ([], [])
    last :: rest

/-- Lay tagged runs end to end from code point `start` on. -/
def layTagged (width : Nat) : Nat → List (List Char) → List (String × Interval)
  | _, [] => []
  | start, word :: rest =>
    let stop := start + hexNumber (word.drop width)
    (String.ofList (word.take width), ⟨start, stop⟩) :: layTagged width stop rest

def taggedRuns (width : Nat) (lines : List String) : List (String × Interval) :=
  layTagged width 0 (words lines)

/-- Lay alternating runs end to end from code point `start` on, the first one outside. -/
def layBinary : Nat → List (List Char) → List Interval
  | start, outside :: inside :: rest =>
    let lo := start + hexNumber outside
    let hi := lo + hexNumber inside
    ⟨lo, hi⟩ :: layBinary hi rest
  | _, _ => []

def binaryRuns (lines : List String) : List Interval := layBinary 0 (words lines)

end Polymatch.Unicode
