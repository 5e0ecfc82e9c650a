/-!
# Code point ranges

A character class of the Unicode standard is kept as a rising list of closed ranges of code
points. The only question asked of such a table is whether it covers a code point.
-/

namespace MergeGate.Text

/-- Closed ranges of code points, in rising order and apart from each other. -/
abbrev Ranges := List (Nat × Nat)

/-- Whether a table covers a code point. The search ends at the first range that starts above
the code point: the ranges rise, so none after it can hold it. -/
def Ranges.covers : Ranges → Nat → Bool
  | [], _ => false
  | (low, high) :: rest, n =>
    if n < low then false else if n ≤ high then true else Ranges.covers rest n

end MergeGate.Text
