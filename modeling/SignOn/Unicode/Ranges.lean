/-!
# Sets of code points

A property of characters is a list of ranges of code points.
-/

namespace SignOn.Unicode

/-- A set of code points, as closed ranges. -/
structure Ranges where
  ranges : List (Nat × Nat)

/-- Whether a character belongs to the set. -/
def Ranges.contains (set : Ranges) (c : Char) : Bool :=
  set.ranges.any fun (low, high) => low ≤ c.toNat && c.toNat ≤ high

end SignOn.Unicode
