import PageHarvest.Decimal
import PageHarvest.Json.Basic
import PageHarvest.Text.Quoted

/-! # Issues of data

What is wrong with a piece of data, and where: the way to the place goes through member names, list
positions and, inside alternatives, the name of the alternative.
-/

namespace PageHarvest.Validate

/-- One step of the way to a place. -/
inductive Key where
  | name (name : String)
  | index (index : Nat)
  deriving DecidableEq, Inhabited

/-- What is wrong at a place. -/
inductive Cause where
  | missing
  | textExpected
  /-- A text with something in it that is no character. -/
  | textTorn
  | integerExpected
  | integerUnreadable
  | integerTooLong
  | integerFractional
  | notFinite
  | numberExpected
  | numberUnreadable
  | boolExpected
  | boolUnreadable
  | atLeast (bound : Int)
  | greaterThan (bound : Int)
  | listExpected
  | mapExpected
  | tupleExpected
  /-- One of a few words is expected. -/
  | wordExpected (words : List String)
  /-- Data of a named model is expected. -/
  | modelExpected (model : String)
  /-- Data of one of several models is expected. -/
  | objectExpected
  | kindMissing
  | kindUnknown (kind : String) (kinds : List String)
  /-- The model cannot be changed. -/
  | frozen
  /-- All members are sound and do not go together. -/
  | refused (reason : String)
  deriving DecidableEq, Inhabited

def Cause.code : Cause → String
  | .missing => "missing"
  | .textExpected => "string_type"
  | .textTorn => "string_unicode"
  | .integerExpected => "int_type"
  | .integerUnreadable => "int_parsing"
  | .integerTooLong => "int_parsing_size"
  | .integerFractional => "int_from_float"
  | .notFinite => "finite_number"
  | .numberExpected => "float_type"
  | .numberUnreadable => "float_parsing"
  | .boolExpected => "bool_type"
  | .boolUnreadable => "bool_parsing"
  | .atLeast _ => "greater_than_equal"
  | .greaterThan _ => "greater_than"
  | .listExpected => "list_type"
  | .mapExpected => "dict_type"
  | .tupleExpected => "tuple_type"
  | .wordExpected _ => "literal_error"
  | .modelExpected _ => "model_type"
  | .objectExpected => "model_attributes_type"
  | .kindMissing => "union_tag_not_found"
  | .kindUnknown .. => "union_tag_invalid"
  | .frozen => "frozen_instance"
  | .refused _ => "value_error"

/-- Words in single quotes, the last one joined to the others with a word of its own. -/
def listWords (last : String) (words : List String) : String :=
  match (words.map fun word => "'" ++ word ++ "'").reverse with
  | [] => ""
  | [word] => word
  | word :: others => ", ".intercalate others.reverse ++ last ++ word

def Cause.message : Cause → String
  | .missing => "Field required"
  | .textExpected => "Input should be a valid string"
  | .textTorn =>
    "Input should be a valid string, unable to parse raw data as a unicode string"
  | .integerExpected => "Input should be a valid integer"
  | .integerUnreadable =>
    "Input should be a valid integer, unable to parse string as an integer"
  | .integerTooLong => "Unable to parse input string as an integer, exceeded maximum size"
  | .integerFractional =>
    "Input should be a valid integer, got a number with a fractional part"
  | .notFinite => "Input should be a finite number"
  | .numberExpected => "Input should be a valid number"
  | .numberUnreadable => "Input should be a valid number, unable to parse string as a number"
  | .boolExpected => "Input should be a valid boolean"
  | .boolUnreadable => "Input should be a valid boolean, unable to interpret input"
  | .atLeast bound => s!"Input should be greater than or equal to {bound}"
  | .greaterThan bound => s!"Input should be greater than {bound}"
  | .listExpected => "Input should be a valid list"
  | .mapExpected => "Input should be a valid dictionary"
  | .tupleExpected => "Input should be a valid tuple"
  | .wordExpected words => "Input should be " ++ listWords " or " words
  | .modelExpected model => s!"Input should be a valid dictionary or instance of {model}"
  | .objectExpected => "Input should be a valid dictionary or object to extract fields from"
  | .kindMissing => "Unable to extract tag using discriminator 'kind'"
  | .kindUnknown kind kinds =>
    s!"Input tag '{kind}' found using 'kind' does not match any of the expected tags: " ++
      listWords ", " kinds
  | .frozen => "Instance is frozen"
  | .refused reason => "Value error, " ++ reason

/-- A cause and its place. -/
structure Issue where
  place : List Key := []
  cause : Cause
  deriving DecidableEq, Inhabited

/-- Data of a model that was refused. -/
structure Invalid where
  model : String
  issues : List Issue
  deriving DecidableEq, Inhabited

def Invalid.summary (invalid : Invalid) : String :=
  let count := invalid.issues.length
  s!"{count} validation error" ++ (if count == 1 then "" else "s") ++ s!" for {invalid.model}"

/-- Glyphs in a message: what is no character is written as an escape. -/
def shownGlyphs (glyphs : List Glyph) : String :=
  String.ofList (glyphs.flatMap fun
    | .char c => [c]
    | .unit n => '\\' :: 'u' :: Text.hexDigits 4 n)

def shown : Json → String
  | .null => "None"
  | .bool true => "True"
  | .bool false => "False"
  | .int n => toString n
  | .float x => Decimal.floatText x
  | .string s => s
  | .torn glyphs => shownGlyphs glyphs
  | .array _ => "[...]"
  | .object _ | .tornObject _ => "\x7b...\x7d"

end PageHarvest.Validate
