/-!
# Sets of code points

A property of characters is given by the ranges of code points that have it,
in ascending order. Looking a code point up stops at the first range that
begins after it.
-/

namespace RecordFilter.Text

/-- Closed ranges of code points, ascending and apart. -/
abbrev CodeRanges := List (Nat × Nat)

/-- Whether a code point lies in one of the ranges. -/
def CodeRanges.contains : CodeRanges → Nat → Bool
  | [], _ => false
  | (first, last) :: ranges, n =>
    if n < first then false
    else if n ≤ last then true
    else CodeRanges.contains ranges n

end RecordFilter.Text
