/-!
# Sets of characters given by ranges

Properties of characters are tables of closed ranges of code points.
-/

namespace ClientBoundary.Text

/-- Whether `n` lies in one of the closed ranges. -/
def inRanges (ranges : List (Nat × Nat)) (n : Nat) : Bool :=
  ranges.any fun r ↦ r.1 ≤ n && n ≤ r.2

end ClientBoundary.Text
