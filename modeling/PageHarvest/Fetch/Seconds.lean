/-! # Spans of time as they are given

A span of time is given as a whole number of seconds or as a decimal one, and is shown as it was
given. Spans are compared by their length.
-/

namespace PageHarvest

/-- A number of seconds. -/
inductive Seconds where
  | whole (n : Int)
  | decimal (x : Float)
  deriving Inhabited

namespace Seconds

def toFloat : Seconds → Float
  | .whole n => if n < 0 then -Float.ofNat n.natAbs else Float.ofNat n.natAbs
  | .decimal x => x

instance : NatCast Seconds := ⟨fun n => .whole n⟩

instance : LT Seconds := ⟨fun a b => a.toFloat < b.toFloat⟩

instance : DecidableLT Seconds := fun a b => inferInstanceAs (Decidable (a.toFloat < b.toFloat))

end Seconds

end PageHarvest
