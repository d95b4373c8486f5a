/-!
# Sets of code points given by ranges
-/

namespace ClusterSurvey.Text

/-- Whether a code point lies in one of the ranges, ends included. -/
def inRanges (n : Nat) (ranges : List (Nat × Nat)) : Bool :=
  ranges.any fun r => r.1 ≤ n && n ≤ r.2

end ClusterSurvey.Text
