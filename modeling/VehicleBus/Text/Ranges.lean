/-!
# Ranges of characters

A property of characters is given by ascending closed ranges of code points.
-/

namespace VehicleBus.Text

/-- Closed ranges of code points, ascending and apart. -/
abbrev Ranges := List (Nat × Nat)

/-- Does a character lie in one of the ranges? -/
def Ranges.contains (ranges : Ranges) (c : Char) : Bool :=
  ranges.any fun (first, last) => decide (first ≤ c.toNat) && decide (c.toNat ≤ last)

end VehicleBus.Text
