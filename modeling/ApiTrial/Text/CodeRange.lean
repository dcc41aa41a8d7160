/-!
Sets of characters given by ranges of their code points.
-/
namespace ApiTrial.Text

/-- A character lies in one of the ranges, both ends included. -/
def inRanges (ranges : List (Nat × Nat)) (c : Char) : Bool :=
  ranges.any fun (first, last) => decide (first ≤ c.toNat) && decide (c.toNat ≤ last)

end ApiTrial.Text
