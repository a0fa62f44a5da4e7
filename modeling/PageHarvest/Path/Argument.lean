import PageHarvest.Text.Blank
import PageHarvest.Text.Lowercase
import PageHarvest.Text.Search
import PageHarvest.Path.Fault

/-! # Arguments of a step

The arguments of a step stand between its first `(` and its last `)`. They are separated by the
commas outside parentheses, and each is a key and a value around its first colon. A key given twice
keeps its last value.
-/

namespace PageHarvest.Path

open Text

/-- The text between the first opening and the last closing bracket. -/
def betweenBrackets (s : List Char) : Except Fault (List Char) :=
  match cut ['('] s with
  | none => .error .bracketMissing
  | some (_, inner) => match cutLast ')' inner with
    | none => .error .bracketUnclosed
    | some (between, _) => .ok between

/-- The depth of parentheses after a character; a stray closing one leaves it at zero. -/
def depthAfter (depth : Nat) (c : Char) : Nat :=
  if c = '(' then depth + 1 else if c = ')' then depth - 1 else depth

def consFirst (c : Char) : List (List Char) → List (List Char)
  | [] => [[c]]
  | piece :: rest => (c :: piece) :: rest

/-- Splits at the commas of depth zero, the text starting at `depth`. -/
def splitArgumentsFrom (depth : Nat) : List Char → List (List Char)
  | [] => [[]]
  | c :: rest =>
    if c = ',' ∧ depth = 0 then [] :: splitArgumentsFrom 0 rest
    else consFirst c (splitArgumentsFrom (depthAfter depth c) rest)

/-- Splits at the commas outside parentheses. -/
def splitArguments (s : List Char) : List (List Char) :=
  splitArgumentsFrom 0 s

/-- Keys and values in the order in which they were written. -/
abbrev Arguments := List (List Char × List Char)

/-- The last value given to a key. -/
def Arguments.get? (args : Arguments) (key : String) : Option (List Char) :=
  args.reverse.lookup key.toList

/-- One argument: a lower-cased key and a value, both trimmed. -/
def parseArgument (part : List Char) : Except Fault (List Char × List Char) :=
  match cut [':'] part with
  | none => .error (.argumentMalformed (String.ofList (trim part)))
  | some (key, value) => .ok (lower (trim key), trim value)

/-- All arguments of a list, blank ones left out. -/
def parseArguments (inner : List Char) : Except Fault Arguments :=
  ((splitArguments inner).filter fun part => !isBlankText part).mapM parseArgument

def stepArguments (token : List Char) : Except Fault Arguments := do
  parseArguments (← betweenBrackets token)

end PageHarvest.Path
