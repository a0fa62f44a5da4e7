/-! # Shortest decimal text of a float

A finite float is an integer times a power of two. Its text has the fewest digits that still read
back as the same float, the nearest such digits if there are several. Numbers from 0.0001 up to,
but not including, 10^16 are written positionally and always show a point; all others have an
exponent of at least two digits.
-/

namespace PageHarvest.Decimal

/-- A positive float as `mantissa * 2 ^ exponent`, and whether the next smaller float is only half
as far away as the next larger one. -/
structure Binary where
  mantissa : Nat
  exponent : Int
  narrowBelow : Bool

/-- The parts of a positive finite float, from its bits without the sign. -/
def Binary.ofBits (bits : Nat) : Binary :=
  let fraction := bits % Nat.pow 2 52
  let biased := bits / Nat.pow 2 52
  if biased == 0 then ⟨fraction, -1074, false⟩
  else ⟨fraction + Nat.pow 2 52, Int.ofNat biased - 1075, fraction == 0 && biased != 1⟩

/-- `b ^ e` as a fraction. -/
def powFraction (base : Nat) (e : Int) : Nat × Nat :=
  if 0 ≤ e then (base.pow e.toNat, 1) else (1, base.pow (-e).toNat)

/-- The greatest `e` with `10 ^ e ≤ num / den`, looked for downwards from `guess`. -/
def magnitude (num den : Nat) : Nat → Int → Int
  | 0, guess => guess
  | fuel + 1, guess =>
    let (p, q) := powFraction 10 guess
    if p * den ≤ num * q then guess else magnitude num den fuel (guess - 1)

/-- Digits and a power of ten. -/
structure Scientific where
  digits : Nat
  exponent : Int
  deriving DecidableEq

/-- The nearest grid point of `count` digits that reads back as the float, if there is one. -/
def nearestOn (b : Binary) (top : Int) (count : Nat) : Option Scientific :=
  let e := top - count + 1
  -- everything is scaled by four so that the ends of the interval are whole
  let (p, q) := powFraction 2 b.exponent
  let (g, h) := powFraction 10 e
  let value := 4 * b.mantissa * p * h
  let low := (4 * b.mantissa - (if b.narrowBelow then 1 else 2)) * p * h
  let high := (4 * b.mantissa + 2) * p * h
  let unit := 4 * q * g
  let closed := b.mantissa % 2 == 0
  let inside (d : Nat) : Bool :=
    if closed then low ≤ d * unit && d * unit ≤ high else low < d * unit && d * unit < high
  let below := value / unit
  let above := below + 1
  match inside below, inside above with
  | true, true =>
    let down := value - below * unit
    let up := above * unit - value
    if down < up || (down == up && below % 2 == 0) then some ⟨below, e⟩ else some ⟨above, e⟩
  | true, false => some ⟨below, e⟩
  | false, true => some ⟨above, e⟩
  | false, false => none

/-- The same number with a zero at the end of its digits taken into the exponent, as when the
nearest point of the grid lies on the next power of ten. -/
def Scientific.carried (s : Scientific) : Scientific :=
  (go s.digits s.digits s.exponent)
where
  go : Nat → Nat → Int → Scientific
    | 0, digits, exponent => ⟨digits, exponent⟩
    | fuel + 1, digits, exponent =>
      if digits % 10 == 0 && digits != 0 then go fuel (digits / 10) (exponent + 1)
      else ⟨digits, exponent⟩

/-- The first grid of at most seventeen digits with a point that reads back. -/
def shortest (b : Binary) : Scientific :=
  let (p, q) := powFraction 2 b.exponent
  let top := magnitude (b.mantissa * p) q 700 309
  let found := (List.range 17).findSome? fun n => nearestOn b top (n + 1)
  (found.getD ⟨b.mantissa, b.exponent⟩).carried

/-- The text of digits whose decimal point stands `point` places after the first digit. -/
def positional (digits : List Char) (point : Int) : List Char :=
  if point ≤ 0 then "0.".toList ++ List.replicate (-point).toNat '0' ++ digits
  else
    let whole := point.toNat
    if digits.length ≤ whole then
      digits ++ List.replicate (whole - digits.length) '0' ++ ".0".toList
    else digits.take whole ++ '.' :: digits.drop whole

/-- The text with one digit before the point and an exponent. -/
def exponential (digits : List Char) (exponent : Int) : List Char :=
  let size := Nat.toDigits 10 exponent.natAbs
  let padded := if size.length < 2 then '0' :: size else size
  let sign := if exponent < 0 then '-' else '+'
  match digits with
  | [] => []
  | [d] => d :: 'e' :: sign :: padded
  | d :: more => d :: '.' :: more ++ 'e' :: sign :: padded

def Scientific.text (s : Scientific) : List Char :=
  let digits := Nat.toDigits 10 s.digits
  let point := s.exponent + digits.length
  if -4 < point && point ≤ 16 then positional digits point else exponential digits (point - 1)

def floatText (x : Float) : String :=
  if x.isNaN then "nan"
  else if x.isInf then (if x < 0 then "-inf" else "inf")
  else
    let bits := x.toBits.toNat
    let size := bits % Nat.pow 2 63
    let body := if size == 0 then "0.0" else String.ofList (shortest (.ofBits size)).text
    if bits / Nat.pow 2 63 == 1 then "-" ++ body else body

/-- The whole number that a float without a fraction stands for. -/
def wholeNumber? (x : Float) : Option Int :=
  if x.isNaN || x.isInf then none
  else
    let bits := x.toBits.toNat
    let size := bits % Nat.pow 2 63
    let b := Binary.ofBits size
    let (p, q) := powFraction 2 b.exponent
    let num := b.mantissa * p
    if num % q == 0 then
      some (if bits / Nat.pow 2 63 == 1 then -((num / q : Nat) : Int) else ((num / q : Nat) : Int))
    else none

end PageHarvest.Decimal
