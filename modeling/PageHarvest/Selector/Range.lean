import PageHarvest.Json.Reader

/-! # Ranges of inputs

An input may have a least and a greatest value. Its own value, if it has one of the form that its
type asks for, lies within them or outside; an input without a value lies within.

Left out is that a search breaks off at a week of a year that does not take four digits, and at a
year of too many digits: here they are no values.
-/

namespace PageHarvest.Selector

/-- A part of the form in which dates and times are written. -/
inductive FormPart where
  /-- Four digits or more. -/
  | year
  | twoDigits
  | mark (c : Char)

/-- The numbers in a text of a form. A line feed at its end does not count. -/
def readForm : List FormPart → List Char → Option (List Nat)
  | [], s => if s = [] || s = ['\n'] then some [] else none
  | .year :: rest, s =>
    let (digits, after) := s.span Json.isDigit
    if 4 ≤ digits.length then (Json.digitsValue digits :: ·) <$> readForm rest after else none
  | .twoDigits :: rest, a :: b :: s =>
    if Json.isDigit a && Json.isDigit b then (Json.digitsValue [a, b] :: ·) <$> readForm rest s
    else none
  | .mark c :: rest, d :: s => if c = d then readForm rest s else none
  | _, _ => none

def dateForm : List FormPart := [.year, .mark '-', .twoDigits, .mark '-', .twoDigits]

def timeForm : List FormPart := [.twoDigits, .mark ':', .twoDigits]

def formOf? (type : String) : Option (List FormPart) :=
  match type with
  | "date" => some dateForm
  | "month" => some [.year, .mark '-', .twoDigits]
  | "week" => some [.year, .mark '-', .mark 'W', .twoDigits]
  | "time" => some timeForm
  | "datetime-local" => some (dateForm ++ .mark 'T' :: timeForm)
  | _ => none

def isLeapYear (year : Nat) : Bool := year % 4 = 0 && year % 100 ≠ 0 || year % 400 = 0

def isDay (year month day : Nat) : Bool :=
  let last := if month = 2 then if isLeapYear year then 29 else 28
    else if month = 4 || month = 6 || month = 9 || month = 11 then 30 else 31
  1 ≤ day && day ≤ last

/-- Whether a year has a week. A year whose last day lies in the first week of the next one counts
as one of fifty-three weeks. -/
def isWeek (year week : Nat) : Bool :=
  -- The last day of the year, Monday being zero.
  let lastDay := (365 * year + year / 4 - year / 100 + year / 400 + 6) % 7
  let last := if lastDay = 5 || lastDay = 6 || lastDay = 4 && !isLeapYear year then 52 else 53
  1 ≤ week && week ≤ last

def isMonth (month : Nat) : Bool := 1 ≤ month && month ≤ 12

def isTime (hour minute : Nat) : Bool := hour ≤ 23 && minute ≤ 59

/-- Whether numbers make a value of a type. -/
def areValid : List Nat → String → Bool
  | [year, month, day], _ => 1 ≤ year && isMonth month && isDay year month day
  | [year, week], "week" => 1000 ≤ year && year ≤ 9999 && isWeek year week
  | [year, month], "month" => 1 ≤ year && isMonth month
  | [hour, minute], _ => isTime hour minute
  | [year, month, day, hour, minute], _ =>
    1 ≤ year && isMonth month && isDay year month day && isTime hour minute
  | _, _ => false

/-- A number with a point or without one. -/
def readDecimal? (s : List Char) : Option Float :=
  let (negative, body) := match s with
    | '-' :: rest => (true, rest)
    | _ => (false, s)
  let (whole, rest) := body.span Json.isDigit
  let (places, after) := match rest with
    | '.' :: more => more.span Json.isDigit
    | _ => ([], rest)
  let digits := whole ++ places
  let pointed := rest.length ≠ after.length
  if (after = [] || after = ['\n']) && !digits.isEmpty && !(pointed && places.isEmpty) then
    some (Json.nearestFloat negative (Json.digitsValue digits) (-places.length))
  else none

/-- The value of an input. -/
inductive InputValue where
  | numbers (numbers : List Nat)
  | decimal (x : Float)

def InputValue.read? (type text : String) : Option InputValue :=
  match formOf? type with
  | some form => do
    let numbers ← readForm form text.toList
    if areValid numbers type then some (.numbers numbers) else none
  | none => (readDecimal? text.toList).map .decimal

def InputValue.below : InputValue → InputValue → Bool
  | .numbers a, .numbers b => a < b
  | .decimal x, .decimal y => x < y
  | _, _ => false

/-- Whether a value lies outside its limits. Limits of times may be the other way round, and then
all that lies between them is outside. -/
def InputValue.isOutside (value : InputValue) (type : String)
    (least greatest : Option InputValue) : Bool :=
  match type, least, greatest with
  | "time", some least, some greatest =>
    if greatest.below least then value.below least && greatest.below value
    else value.below least || greatest.below value
  | _, _, _ => least.any value.below || greatest.any (·.below value)

/-- Whether an input of a type, with the texts of its limits and of its value, lies outside them;
nothing can be said where neither limit is a value. -/
def liesOutside? (type : String) (least greatest value : Option String) : Option Bool :=
  let read (text : Option String) := text.bind (InputValue.read? type)
  match read least, read greatest with
  | none, none => none
  | least, greatest => some ((read value).any (·.isOutside type least greatest))

end PageHarvest.Selector
