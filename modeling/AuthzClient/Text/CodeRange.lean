/-!
Sets of characters given as ascending ranges of code points.
-/

namespace AuthzClient.Text

/-- Whether a number lies in one of the ranges, both ends included. The ranges ascend, so the search stops at the
first one that begins behind the number. -/
def inRanges (n : Nat) : List (Nat × Nat) → Bool
  | [] => false
  | (first, last) :: rest => if n < first then false else if n ≤ last then true else inRanges n rest

end AuthzClient.Text
