import PageHarvest.Validate.Issue

/-! # Reports on refused data

A report names every issue with its place, what is wrong there, and the value that stands there in
a short form.
-/

namespace PageHarvest.Validate

def kindName : Json → String
  | .null => "NoneType"
  | .bool _ => "bool"
  | .int _ => "int"
  | .float _ => "float"
  | .string _ | .torn _ => "str"
  | .array _ => "list"
  | .object _ | .tornObject _ => "dict"

/-- Glyphs in quotes: what is no character is written as an escape. -/
def displayGlyphs (glyphs : List Glyph) : String :=
  let quote := Text.quoteFor (glyphs.filterMap Glyph.char?)
  String.ofList <| quote :: (glyphs.flatMap fun
    | .char c => Text.escapeChar quote c
    | .unit n => '\\' :: 'u' :: Text.hexDigits 4 n) ++ [quote]

mutual

def display : Json → String
  | .string s => Text.quoted s
  | .array items => "[" ++ displayItems items ++ "]"
  | .object members => "\x7b" ++ displayMembers members ++ "\x7d"
  | .torn glyphs => displayGlyphs glyphs
  | .tornObject members => "\x7b" ++ displayTornMembers members ++ "\x7d"
  | .null => "None"
  | .bool true => "True"
  | .bool false => "False"
  | .int n => toString n
  | .float x => Decimal.floatText x

def displayItems : List Json → String
  | [] => ""
  | [item] => display item
  | item :: rest => display item ++ ", " ++ displayItems rest

def displayMembers : List (String × Json) → String
  | [] => ""
  | [(name, value)] => Text.quoted name ++ ": " ++ display value
  | (name, value) :: rest =>
    Text.quoted name ++ ": " ++ display value ++ ", " ++ displayMembers rest

/-- The members of an object with torn names as a report shows them. -/
def displayTornMembers : List (List Glyph × Json) → String
  | [] => ""
  | [(name, value)] => displayGlyphs name ++ ": " ++ display value
  | (name, value) :: rest =>
    displayGlyphs name ++ ": " ++ display value ++ ", " ++ displayTornMembers rest

end

/-- The longest beginning of a text with at most so many bytes. -/
def beginningOf (bytes : Nat) : List Char → List Char
  | [] => []
  | c :: rest => if c.utf8Size ≤ bytes then c :: beginningOf (bytes - c.utf8Size) rest else []

/-- A text of at most fifty bytes; of a longer one, its beginning and its end. -/
def shortened (text : String) : String :=
  if text.utf8ByteSize ≤ 50 then text
  else
    let chars := text.toList
    String.ofList (beginningOf 25 chars) ++ "..." ++
      String.ofList (beginningOf 24 chars.reverse).reverse

/-- A step of the way to a place; names with points stand in quotes. -/
def Key.text : Key → String
  | .name s => if s.toList.contains '.' then "`" ++ s ++ "`" else s
  | .index n => toString n

/-- The value at a place of some data; of a member that is missing, the object it is missing in. -/
def valueAt (data : Json) : List Key → Json
  | [] => data
  | .name name :: rest => match data.get? name with
    | some value => valueAt value rest
    | none => data
  | .index index :: rest => match data with
    | .array items => match items[index]? with
      | some value => valueAt value rest
      | none => data
    | _ => data

def Issue.report (issue : Issue) (data : Json) : String :=
  let value := valueAt data issue.place
  let place := if issue.place.isEmpty then ""
    else ".".intercalate (issue.place.map Key.text) ++ "\n"
  s!"{place}  {issue.cause.message} [type={issue.cause.code}, " ++
    s!"input_value={shortened (display value)}, input_type={kindName value}]"

def Invalid.report (invalid : Invalid) (data : Json) : String :=
  "\n".intercalate (invalid.summary :: invalid.issues.map (Issue.report · data))

end PageHarvest.Validate
