/-!
# Ranges of characters

A class of characters beyond ASCII is listed as ascending ranges of code points, both ends included.
-/

set_option autoImplicit false

namespace RowGuard

/-- Whether a character lies in one of the ranges. -/
def inRanges (ranges : Array (Nat × Nat)) (c : Char) : Bool :=
  let n := c.toNat
  ranges.any fun r => r.1 ≤ n && n ≤ r.2

end RowGuard
