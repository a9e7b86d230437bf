/-! Sets of characters, given as ranges of code points. -/

namespace Kindred

/-- Ranges of code points, ends included, in increasing order. -/
abbrev CodeRanges := List (Nat × Nat)

/-- The code point lies in one of the ranges. The ranges past it are not looked at. -/
def CodeRanges.contains : CodeRanges → Nat → Bool
  | [], _ => false
  | (first, last) :: rest, code =>
    if code < first then false else decide (code ≤ last) || contains rest code

end Kindred
