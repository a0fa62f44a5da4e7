import PageHarvest.Text.Blank

/-! # Reading whole numbers

A whole number is an optional sign and digits, with single underscores allowed between two digits.
Digits may come from any decimal script. A number of more than `maxDigits` digits is not read.
-/

namespace PageHarvest.Text

/-- The zeros of the decimal scripts; the other nine digits follow each of them. -/
def digitZeros : List Nat := [
    48, 1632, 1776, 1984, 2406, 2534, 2662, 2790, 2918, 3046, 3174, 3302, 3430, 3558, 3664, 3792,
    3872, 4160, 4240, 6112, 6160, 6470, 6608, 6784, 6800, 6992, 7088, 7232, 7248, 42528, 43216,
    43264, 43472, 43504, 43600, 44016, 65296, 66720, 68912, 69734, 69872, 69942, 70096, 70384,
    70736, 70864, 71248, 71360, 71472, 71904, 72016, 72784, 73040, 73120, 92768, 92864, 93008,
    120782, 120792, 120802, 120812, 120822, 123200, 123632, 125264, 130032]

def digitValue? (c : Char) : Option Nat :=
  if c.toNat < 128 then
    if c.isDigit then some (c.toNat - 48) else none
  else (digitZeros.find? fun first => first ≤ c.toNat && c.toNat < first + 10).map (c.toNat - ·)

def maxDigits : Nat := 4300

/-- The wording of what is said of a number of too many digits. -/
def tooManyDigits (count : Nat) : String :=
  s!"Exceeds the limit ({maxDigits} digits) for integer string conversion: value has {count} " ++
    "digits; use sys.set_int_max_str_digits() to increase the limit"

/-- Digits with single underscores between them, read on from `value` after `count` digits;
`gap` says that an underscore has just been passed. -/
def readDigits (value count : Nat) (gap : Bool) : List Char → Option Nat
  | [] => if gap || count == 0 || maxDigits < count then none else some value
  | '_' :: rest => if gap || count == 0 then none else readDigits value count true rest
  | c :: rest => match digitValue? c with
    | some d => readDigits (10 * value + d) (count + 1) false rest
    | none => none

/-- A number without a sign. -/
def readNatural? (s : List Char) : Option Nat :=
  readDigits 0 0 false s

def readInteger? : List Char → Option Int
  | '+' :: rest => (readNatural? rest).map Int.ofNat
  | '-' :: rest => (readNatural? rest).map fun n => -Int.ofNat n
  | s => (readNatural? s).map Int.ofNat

end PageHarvest.Text
