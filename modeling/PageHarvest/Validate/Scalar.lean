import PageHarvest.Json.Reader
import PageHarvest.Text.Blank
import PageHarvest.Text.Search
import PageHarvest.Validate.Checked

/-! # Lenient scalars

Numbers and truth values may also come as texts or as each other where nothing is lost: a whole
number as `"007"`, `4.0` or `true`, a number as `"1e3"`, a truth value as `"off"` or `0`. Texts
come as texts only.
-/

namespace PageHarvest.Validate

def text : Check String
  | .string s => .sound s
  | .torn _ => .fail .textTorn
  | _ => .fail .textExpected

/-- Blanks around a number: those that Unicode calls white space. -/
def isWhite (c : Char) : Bool :=
  Text.isBlank c && !(0x1C ≤ c.toNat && c.toNat ≤ 0x1F)

/-- Drops zeros and underscores in front of the first other digit. The zero before a point and a
final zero stay; `last` is the last character dropped. -/
def dropZeros (last : Char) : List Char → Option (List Char)
  | [] => some [last]
  | c :: rest =>
    if c == '0' || c == '_' then dropZeros c rest
    else if '1' ≤ c && c ≤ '9' then some (c :: rest)
    else if c == '.' then some (last :: c :: rest)
    else none

/-- Digits without needless zeros in front. -/
def significant (s : List Char) : Option (List Char) :=
  match s with
  | c :: rest => if c == '0' then dropZeros c rest else if Json.isDigit c then some s else none
  | [] => none

/-- Drops a point with nothing but zeros behind it. -/
def dropPoint (s : List Char) : List Char :=
  match Text.cut ['.'] s with
  | some (whole, fraction) => if fraction.all (· == '0') then whole else s
  | none => s

/-- Drops underscores that stand one by one between other characters. -/
def dropUnderscores (s : List Char) : List Char :=
  if s.head? == some '_' || s.getLast? == some '_' || Text.occursIn ['_', '_'] s then s
  else s.filter (· != '_')

def readWhole (s : List Char) : Except Cause Int := do
  let (negative, body) := match Text.trimBy isWhite s with
    | '+' :: rest => (false, rest)
    | '-' :: rest => (true, rest)
    | trimmed => (false, trimmed)
  let some digits := significant body | throw .integerUnreadable
  let digits := dropUnderscores (dropPoint digits)
  if digits.isEmpty || !digits.all Json.isDigit then throw .integerUnreadable
  if digits.length > 4300 then throw .integerTooLong
  let value : Int := Json.digitsValue digits
  return if negative then -value else value

def integer : Check Int
  | .int n => .sound n
  | .bool b => .sound (if b then 1 else 0)
  | .string s => match readWhole s.toList with
    | .ok n => .sound n
    | .error cause => .fail cause
  | .torn _ => .fail .textTorn
  | .float x =>
    if x.isNaN || x.isInf then .fail .notFinite
    else match Decimal.wholeNumber? x with
      | some n => if n.natAbs ≤ Nat.pow 2 63 then .sound n else .fail .integerTooLong
      | none => .fail .integerFractional
  | _ => .fail .integerExpected

/-- A whole number from a bound upwards. -/
def integerFrom (bound : Int) : Check Int := fun json =>
  (integer json).andThen fun n => if bound ≤ n then .sound n else .fail (.atLeast bound)

/-- A whole number that is not negative. -/
def natural : Check Nat := fun json => Int.toNat <$> integerFrom 0 json

/-- The float that an unsigned text of digits, point and exponent stands for. -/
def readUnsigned (negative : Bool) (s : List Char) : Option Float :=
  let (whole, rest) := s.span Json.isDigit
  let (fraction, rest) := match rest with
    | '.' :: rest => rest.span Json.isDigit
    | _ => ([], rest)
  if whole.isEmpty && fraction.isEmpty then none
  else
    let digits := Json.digitsValue (whole ++ fraction)
    let places : Int := fraction.length
    match rest with
    | [] => some (Json.nearestFloat negative digits (-places))
    | e :: rest =>
      if e != 'e' && e != 'E' then none
      else
        let (down, power) := match rest with
          | '-' :: rest => (true, rest)
          | '+' :: rest => (false, rest)
          | _ => (false, rest)
        if power.isEmpty || !power.all Json.isDigit then none
        else
          let power : Int := Json.digitsValue power
          some (Json.nearestFloat negative digits ((if down then -power else power) - places))

def readFloat? (s : List Char) : Option Float :=
  let (negative, body) := match s with
    | '+' :: rest => (false, rest)
    | '-' :: rest => (true, rest)
    | _ => (false, s)
  let word := body.map Char.toLower
  if word == "inf".toList || word == "infinity".toList then
    some (if negative then -1.0 / 0.0 else 1.0 / 0.0)
  else if word == "nan".toList then some (0.0 / 0.0)
  else readUnsigned negative body

/-- A number. -/
def number : Check Float
  | .float x => .sound x
  | .int n => .sound (Json.nearestFloat (n < 0) n.natAbs 0)
  | .bool b => .sound (if b then 1.0 else 0.0)
  | .string s =>
    let trimmed := Text.trimBy isWhite s.toList
    match readFloat? trimmed <|> readFloat? (dropUnderscores trimmed) with
    | some x => .sound x
    | none => .fail .numberUnreadable
  | .torn _ => .fail .textTorn
  | _ => .fail .numberExpected

def positive : Check Float := fun json =>
  (number json).andThen fun x => if 0 < x then .sound x else .fail (.greaterThan 0)

/-- Words for yes, in small letters. -/
def yesWords : List String := ["1", "on", "t", "true", "y", "yes"]

/-- Words for no, in small letters. -/
def noWords : List String := ["0", "off", "f", "false", "n", "no"]

def bool : Check Bool
  | .bool b => .sound b
  | .int n => if n == 0 then .sound false else if n == 1 then .sound true else .fail .boolUnreadable
  | .float x =>
    match Decimal.wholeNumber? x with
    | some 0 => .sound false
    | some 1 => .sound true
    | some _ => .fail .boolUnreadable
    | none => .fail .boolExpected
  | .string s =>
    let word := String.ofList (s.toList.map Char.toLower)
    if yesWords.contains word then .sound true
    else if noWords.contains word then .sound false
    else .fail .boolUnreadable
  | .torn _ => .fail .textTorn
  | _ => .fail .boolExpected

end PageHarvest.Validate
