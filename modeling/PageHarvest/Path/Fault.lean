/-! # Faults of a path text

Every step of a path text compiles or has exactly one fault. A diagnostic is the fault's wording
together with the text of the step.
-/

namespace PageHarvest.Path

/-- What is wrong with a step of a path text. -/
inductive Fault where
  | startExpected
  | startRepeated
  | keywordUnknown
  | bracketMissing
  | bracketUnclosed
  | argumentMalformed (part : String)
  | selectorMissing
  | nameMissing
  | allRefused
  | numberInvalid
  | numberNegative
  | locationMissing
  | locationInvalid
  | attributeMissing
  deriving DecidableEq, Inhabited

def Fault.message : Fault → String
  | .startExpected => "First step must be Start"
  | .startRepeated => "Start may only be the first step"
  | .keywordUnknown => "Invalid command"
  | .bracketMissing => "Expected '(' to open the arguments"
  | .bracketUnclosed => "Unclosed parenthesis"
  | .argumentMalformed part => s!"Malformed argument '{part}', expected KEY: VALUE"
  | .selectorMissing => "Missing selector string"
  | .nameMissing => "Missing field name"
  | .allRefused => "ALL selection is not allowed on this step"
  | .numberInvalid => "Invalid select element number"
  | .numberNegative => "Select element number must not be negative"
  | .locationMissing => "Missing location"
  | .locationInvalid => "Invalid location"
  | .attributeMissing => "Missing attribute name"

end PageHarvest.Path

namespace PageHarvest

/-- A step text and what is wrong with it. -/
structure Diagnostic where
  step : String
  message : String
  deriving DecidableEq, Inhabited

def Path.Fault.at (fault : Path.Fault) (step : List Char) : Diagnostic :=
  ⟨String.ofList step, fault.message⟩

def Diagnostic.text (d : Diagnostic) : String :=
  d.message ++ ": " ++ d.step

end PageHarvest
