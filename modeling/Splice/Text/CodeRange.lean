/-!
# Sets of characters as ranges of code points

A property of characters is tabulated as a list of closed ranges of code points, ascending and
apart. The tables follow version 14 of the Unicode character database.
-/

namespace Splice

/-- A set of code points: closed ranges, ascending and apart. -/
abbrev CodeRanges := List (Nat × Nat)

/-- Whether a code point lies in one of the ranges. -/
def CodeRanges.holds (ranges : CodeRanges) (code : Nat) : Bool :=
  ranges.any fun (first, last) => first ≤ code && code ≤ last

end Splice
