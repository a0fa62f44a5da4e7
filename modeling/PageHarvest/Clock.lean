/-! # Points in time

A point in time as it is shown by a calendar and a clock, and the forms in which it is written.
-/

namespace PageHarvest

/-- A point in time. -/
structure Timestamp where
  year : Nat
  month : Nat
  day : Nat
  hour : Nat
  minute : Nat
  second : Nat
  microsecond : Nat := 0
  deriving DecidableEq, Inhabited

namespace Timestamp

/-- The point in time a number of seconds after the beginning of 1970. Years are counted from
March on, so that a leap day is the last day of its year. -/
def ofSeconds (seconds : Nat) (microsecond : Nat := 0) : Timestamp :=
  let days := seconds / 86400 + 719468
  let inEra := days % 146097
  let yearInEra := (inEra - inEra / 1460 + inEra / 36524 - inEra / 146096) / 365
  let inYear := inEra - (365 * yearInEra + yearInEra / 4 - yearInEra / 100)
  let fromMarch := (5 * inYear + 2) / 153
  let month := if fromMarch < 10 then fromMarch + 3 else fromMarch - 9
  { year := days / 146097 * 400 + yearInEra + if month ≤ 2 then 1 else 0
    month
    day := inYear - (153 * fromMarch + 2) / 5 + 1
    hour := seconds / 3600 % 24
    minute := seconds / 60 % 60
    second := seconds % 60
    microsecond }

def padded (width n : Nat) : String :=
  let digits := toString n
  String.ofList (List.replicate (width - digits.length) '0') ++ digits

/-- Date and time with all separators; a fraction of a second only if there is one. -/
def iso (t : Timestamp) : String :=
  let date := s!"{padded 4 t.year}-{padded 2 t.month}-{padded 2 t.day}"
  let time := s!"{padded 2 t.hour}:{padded 2 t.minute}:{padded 2 t.second}"
  let fraction := if t.microsecond = 0 then "" else s!".{padded 6 t.microsecond}"
  s!"{date}T{time}{fraction}"

/-- Date and time as they occur in names of files. -/
def compact (t : Timestamp) : String :=
  s!"{t.year}{padded 2 t.month}{padded 2 t.day}_{padded 2 t.hour}{padded 2 t.minute}" ++
    padded 2 t.second

/-- Date and time as they occur in front of journal lines. -/
def stamp (t : Timestamp) : String :=
  s!"{padded 4 t.year}-{padded 2 t.month}-{padded 2 t.day} " ++
    s!"{padded 2 t.hour}:{padded 2 t.minute}:{padded 2 t.second},{padded 3 (t.microsecond / 1000)}"

end Timestamp

end PageHarvest
