/-!
Sets of characters given as ascending ranges of code points, both ends included.
-/

namespace SpokenIntent.Text

/-- Whether `n` lies in one of `ranges`. The ranges ascend, so the search stops at the first that
begins above `n`. -/
def inRanges (n : Nat) : List (Nat × Nat) → Bool
  | [] => false
  | (low, high) :: rest => !(n < low) && (n ≤ high || inRanges n rest)

end SpokenIntent.Text
