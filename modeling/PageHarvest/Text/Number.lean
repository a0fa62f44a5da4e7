import PageHarvest.Text.Integer
import PageHarvest.Validate.Scalar

/-! # Reading numbers

A number is read from a text with blanks around it, digits of any decimal script and single
underscores between digits.
-/

namespace PageHarvest.Text

/-- A text with ASCII digits in place of the digits of other scripts. -/
def withPlainDigits (s : List Char) : List Char :=
  s.map fun c => match digitValue? c with
    | some d => Char.ofNat (48 + d)
    | none => c

/-- A text without underscores, if all of them stand between two digits; `last` is the character
before it. -/
def joinDigits (last : Char) : List Char → Option (List Char)
  | [] => if last = '_' then none else some []
  | c :: rest =>
    if c = '_' then if last.isDigit then joinDigits c rest else none
    else if last = '_' && !c.isDigit then none
    else (joinDigits c rest).map (c :: ·)

def integer? (s : String) : Option Int := readInteger? (trim s.toList)

def float? (s : String) : Option Float :=
  (joinDigits ' ' (withPlainDigits (trim s.toList))).bind Validate.readFloat?

end PageHarvest.Text
