/-!
# Ranges of code points

Unicode properties are given as lists of closed intervals of code points.
-/

namespace WordServer.Text

/-- Whether a code point lies in one of the closed intervals. -/
def inRanges (ranges : List (Nat × Nat)) (n : Nat) : Bool :=
  ranges.any fun range => range.1 ≤ n && n ≤ range.2

end WordServer.Text
