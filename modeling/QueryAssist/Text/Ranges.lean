/-!
# Ranges of code points

A class of characters is given by ascending closed ranges of code points.

## Main definitions

* `Text.inRanges` — membership of a code point in a list of ranges
-/

namespace QueryAssist.Text

/-- Whether `n` lies in one of the ranges. The search stops at the first range above `n`. -/
def inRanges (n : Nat) : List (Nat × Nat) → Bool
  | [] => false
  | (lo, hi) :: ranges => if n < lo then false else n ≤ hi || inRanges n ranges

end QueryAssist.Text
