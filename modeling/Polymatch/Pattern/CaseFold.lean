import Polymatch.Interval
import Polymatch.Text.Units
import Polymatch.Unicode.Case

/-! # Folding letter case

A pattern that ignores case adds to every unit its one-to-one partners in lower
and upper case, as far as they fit one unit.
-/

namespace Polymatch.Pattern

/-- The case partners of a unit. -/
def casePartners (u : Nat) : List Nat :=
  ((Unicode.Case.lower? u).toList ++ (Unicode.Case.upper? u).toList).filter (· < Text.unitLimit)

/-- The units of some intervals and the case partners of each. -/
def foldCase (ranges : List Interval) : List Interval :=
  let partners := ranges.flatMap fun r => (List.range' r.lo (r.hi - r.lo)).flatMap casePartners
  Interval.normalize (ranges ++ partners.map .single)

end Polymatch.Pattern
