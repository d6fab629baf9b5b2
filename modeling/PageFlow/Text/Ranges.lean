/-!
# Ranges of code points

A character class is a list of closed ranges of code points in increasing order.
-/

namespace PageFlow.Text

/-- Membership of a code point in a list of closed ranges. -/
def inRanges (ranges : List (Nat × Nat)) (point : Nat) : Bool :=
  ranges.any fun range => range.1 ≤ point && point ≤ range.2

end PageFlow.Text
