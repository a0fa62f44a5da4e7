/-! # Sets of characters given by their boundaries

A large character class is a sorted list of code points at which membership changes: the first
bound opens the class, the second closes it, and so on.
-/

namespace PageHarvest.Text

/-- The code points at which membership alternates, in increasing order. -/
structure CharRanges where
  bounds : List Nat

/-- A character belongs to the set when an odd number of bounds lie at or below it. -/
def CharRanges.contains (ranges : CharRanges) (c : Char) : Bool :=
  (ranges.bounds.takeWhile (· ≤ c.toNat)).length % 2 == 1

end PageHarvest.Text
