import PageHarvest.Decimal
import PageHarvest.Json.Basic
import PageHarvest.Text.Quoted

/-! # Writing JSON

The compact form has no blanks at all; the indented form puts every item on a line of its own, two
blanks deeper than its parent. Both keep characters outside ASCII and escape quotes, backslashes,
control characters and what is no character.

The indented form is put down in stretches, and a whole number with too many digits ends it: what
was put down before stays.
-/

namespace PageHarvest.Json

def escapeChar (c : Char) : List Char :=
  if c == '"' then ['\\', '"']
  else if c == '\\' then ['\\', '\\']
  else if c == '\n' then ['\\', 'n']
  else if c == '\r' then ['\\', 'r']
  else if c == '\t' then ['\\', 't']
  else if c.toNat == 8 then ['\\', 'b']
  else if c.toNat == 12 then ['\\', 'f']
  else if c.toNat < 32 then '\\' :: 'u' :: Text.hexDigits 4 c.toNat
  else [c]

def writeString (s : String) : List Char :=
  '"' :: s.toList.flatMap escapeChar ++ ['"']

def escapeGlyph : Glyph → List Char
  | .char c => escapeChar c
  | .unit n => '\\' :: 'u' :: Text.hexDigits 4 n

def writeGlyphs (glyphs : List Glyph) : List Char :=
  '"' :: glyphs.flatMap escapeGlyph ++ ['"']

def writeInt : Int → List Char
  | .ofNat n => Nat.toDigits 10 n
  | .negSucc n => '-' :: Nat.toDigits 10 (n + 1)

/-- A float; the words for the values that are no numbers are not standard JSON. -/
def writeFloat (x : Float) : List Char :=
  if x.isNaN then "NaN".toList
  else if x.isInf then (if x < 0 then "-Infinity" else "Infinity").toList
  else (Decimal.floatText x).toList

mutual

def write : Json → List Char
  | .null => "null".toList
  | .bool true => "true".toList
  | .bool false => "false".toList
  | .int n => writeInt n
  | .float x => writeFloat x
  | .string s => writeString s
  | .torn glyphs => writeGlyphs glyphs
  | .array items => '[' :: writeItems items
  | .object members => '\x7b' :: writeMembers members
  | .tornObject members => '\x7b' :: writeTornMembers members

/-- The rest of an array from its first item on. -/
def writeItems : List Json → List Char
  | [] => [']']
  | [item] => write item ++ [']']
  | item :: rest => write item ++ ',' :: writeItems rest

/-- The rest of an object from its first member on. -/
def writeMembers : List (String × Json) → List Char
  | [] => ['\x7d']
  | [(name, value)] => writeString name ++ ':' :: write value ++ ['\x7d']
  | (name, value) :: rest => writeString name ++ ':' :: write value ++ ',' :: writeMembers rest

/-- The rest of an object with torn names from its first member on. -/
def writeTornMembers : List (List Glyph × Json) → List Char
  | [] => ['\x7d']
  | [(name, value)] => writeGlyphs name ++ ':' :: write value ++ ['\x7d']
  | (name, value) :: rest => writeGlyphs name ++ ':' :: write value ++ ',' :: writeTornMembers rest

end

def newline (depth : Nat) : List Char :=
  '\n' :: List.replicate (2 * depth) ' '

mutual

def writeIndented (depth : Nat) : Json → List Char
  | .array [] => "[]".toList
  | .array items => '[' :: newline (depth + 1) ++ writeItemsIndented depth items
  | .object [] => ['\x7b', '\x7d']
  | .object members => '\x7b' :: newline (depth + 1) ++ writeMembersIndented depth members
  | .tornObject members =>
    '\x7b' :: newline (depth + 1) ++ writeTornMembersIndented depth members
  | .null => "null".toList
  | .bool true => "true".toList
  | .bool false => "false".toList
  | .int n => writeInt n
  | .float x => writeFloat x
  | .string s => writeString s
  | .torn glyphs => writeGlyphs glyphs

/-- The items of an array that is `depth` deep, and its end. -/
def writeItemsIndented (depth : Nat) : List Json → List Char
  | [] => newline depth ++ [']']
  | [item] => writeIndented (depth + 1) item ++ newline depth ++ [']']
  | item :: rest =>
    writeIndented (depth + 1) item ++ ',' :: newline (depth + 1) ++ writeItemsIndented depth rest

/-- The members of an object that is `depth` deep, and its end. -/
def writeMembersIndented (depth : Nat) : List (String × Json) → List Char
  | [] => newline depth ++ ['\x7d']
  | [(name, value)] =>
    writeString name ++ ':' :: ' ' :: writeIndented (depth + 1) value ++ newline depth ++ ['\x7d']
  | (name, value) :: rest =>
    writeString name ++ ':' :: ' ' :: writeIndented (depth + 1) value ++
      ',' :: newline (depth + 1) ++ writeMembersIndented depth rest

/-- The members of an object with torn names that is `depth` deep, and its end. -/
def writeTornMembersIndented (depth : Nat) : List (List Glyph × Json) → List Char
  | [] => newline depth ++ ['\x7d']
  | [(name, value)] =>
    writeGlyphs name ++ ':' :: ' ' :: writeIndented (depth + 1) value ++ newline depth ++ ['\x7d']
  | (name, value) :: rest =>
    writeGlyphs name ++ ':' :: ' ' :: writeIndented (depth + 1) value ++
      ',' :: newline (depth + 1) ++ writeTornMembersIndented depth rest

end

/-! ## Stretches -/

/-- A stretch of text that is put down at once; none for a whole number with too many digits. -/
abbrev Stretch := Option (List Char)

/-- A whole number, put down together with what stands before it. -/
def stretchInt (before : List Char) (n : Int) : Stretch :=
  if n.natAbs < Nat.pow 10 maxDigits then some (before ++ writeInt n) else none

mutual

/-- The stretches of a value at a depth. What stands before the value is put down with it, but
before the parts of a value that has some. -/
def stretches (depth : Nat) (before : List Char) : Json → List Stretch
  | .int n => [stretchInt before n]
  | .array [] => [some before, some "[]".toList]
  | .array items => some before :: stretchItems depth ('[' :: newline (depth + 1)) items
  | .object [] => [some before, some ['\x7b', '\x7d']]
  | .object members =>
    some before :: some ['\x7b'] :: some (newline (depth + 1)) :: stretchMembers depth members
  | .tornObject members =>
    some before :: some ['\x7b'] :: some (newline (depth + 1)) :: stretchTornMembers depth members
  | .null => [some (before ++ "null".toList)]
  | .bool true => [some (before ++ "true".toList)]
  | .bool false => [some (before ++ "false".toList)]
  | .float x => [some (before ++ writeFloat x)]
  | .string s => [some (before ++ writeString s)]
  | .torn glyphs => [some (before ++ writeGlyphs glyphs)]

/-- The stretches of the items of an array that is `depth` deep, and of its end. -/
def stretchItems (depth : Nat) (before : List Char) : List Json → List Stretch
  | [] => [some (newline depth), some [']']]
  | item :: rest =>
    stretches (depth + 1) before item ++ stretchItems depth (',' :: newline (depth + 1)) rest

/-- The stretches of the members of an object that is `depth` deep, and of its end. -/
def stretchMembers (depth : Nat) : List (String × Json) → List Stretch
  | [] => [some (newline depth), some ['\x7d']]
  | [(name, value)] =>
    some (writeString name) :: some [':', ' '] :: stretches (depth + 1) [] value ++
      [some (newline depth), some ['\x7d']]
  | (name, value) :: rest =>
    some (writeString name) :: some [':', ' '] :: stretches (depth + 1) [] value ++
      some (',' :: newline (depth + 1)) :: stretchMembers depth rest

/-- The stretches of the members of an object with torn names that is `depth` deep, and of its
end. -/
def stretchTornMembers (depth : Nat) : List (List Glyph × Json) → List Stretch
  | [] => [some (newline depth), some ['\x7d']]
  | [(name, value)] =>
    some (writeGlyphs name) :: some [':', ' '] :: stretches (depth + 1) [] value ++
      [some (newline depth), some ['\x7d']]
  | (name, value) :: rest =>
    some (writeGlyphs name) :: some [':', ' '] :: stretches (depth + 1) [] value ++
      some (',' :: newline (depth + 1)) :: stretchTornMembers depth rest

end

/-- What is put down up to a whole number with too many digits, or as a whole if there is none. -/
def putDown : List Stretch → Except (List Char) (List Char)
  | [] => .ok []
  | none :: _ => .error []
  | some text :: rest =>
    match putDown rest with
    | .ok more => .ok (text ++ more)
    | .error more => .error (text ++ more)

/-- The indented text of a value, or the part of it that is put down before a whole number with too
many digits ends it. -/
def dump (json : Json) : Except String String :=
  ((putDown (stretches 0 [] json)).map String.ofList).mapError String.ofList

def compact (json : Json) : String := String.ofList (write json)

def indented (json : Json) : String := String.ofList (writeIndented 0 json)

end PageHarvest.Json
