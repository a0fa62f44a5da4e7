import PageHarvest.Json.Basic
import PageHarvest.Text.Integer

/-! # Reading JSON

Reading follows the standard grammar and also takes the words `NaN`, `Infinity` and `-Infinity`.
A name that is repeated in an object keeps its place and takes its last value. A text that is no
JSON is refused with the place at which reading stopped and what was expected there.

The reader calls itself for every array and object, and there is room for so many calls only. The
table of words and the report of a fault take calls as well.
-/

namespace PageHarvest.Json

/-- Why a text is no JSON. -/
inductive ReadFault where
  | valueExpected
  | nameExpected
  | colonExpected
  | commaExpected
  | extraData
  | unterminatedString
  | controlCharacter
  | invalidEscape
  | invalidUnicodeEscape
  | byteOrderMark
  deriving DecidableEq

def ReadFault.message : ReadFault → String
  | .valueExpected => "Expecting value"
  | .nameExpected => "Expecting property name enclosed in double quotes"
  | .colonExpected => "Expecting ':' delimiter"
  | .commaExpected => "Expecting ',' delimiter"
  | .extraData => "Extra data"
  | .unterminatedString => "Unterminated string starting at"
  | .controlCharacter => "Invalid control character at"
  | .invalidEscape => "Invalid \\escape"
  | .invalidUnicodeEscape => "Invalid \\uXXXX escape"
  | .byteOrderMark => "Unexpected UTF-8 BOM (decode using utf-8-sig)"

/-- What there was no room for. -/
inductive Crowd where
  | array
  | object
  /-- To look a word up, or to report a fault. -/
  | call
  deriving DecidableEq

/-- A fault, and how many characters were left where it was found; a whole number with more digits
than are read; or no room for a further call. -/
inductive Stop where
  | fault (kind : ReadFault) (left : Nat)
  | tooManyDigits (count : Nat)
  | tooDeep (crowd : Crowd)
  deriving DecidableEq

/-- How many calls the report of a fault takes. -/
def reportCalls : Nat := 3

/-- What reading stops with where there is room for so many calls. Only once reading has come to its
end is it reported that there was no value. -/
def Stop.within (room : Nat) : Stop → Stop
  | .fault kind left =>
    if kind != .valueExpected && room < reportCalls then .tooDeep .call else .fault kind left
  | other => other

def stop {α : Type} (kind : ReadFault) (rest : List Char) : Except Stop α :=
  .error (.fault kind rest.length)

/-- Blanks between tokens. -/
def isSpace (c : Char) : Bool :=
  c == ' ' || c == '\t' || c == '\n' || c == '\r'

def skipSpace (s : List Char) : List Char := s.dropWhile isSpace

def hexValue? (c : Char) : Option Nat :=
  if '0' ≤ c && c ≤ '9' then some (c.toNat - 48)
  else if 'a' ≤ c && c ≤ 'f' then some (c.toNat - 87)
  else if 'A' ≤ c && c ≤ 'F' then some (c.toNat - 55)
  else none

/-- Four hexadecimal digits that are not the end of the text. -/
def readHex4 : List Char → Option (Nat × List Char)
  | a :: b :: c :: d :: e :: rest => do
    let n := (← hexValue? a) * 4096 + (← hexValue? b) * 256 + (← hexValue? c) * 16 + (← hexValue? d)
    return (n, e :: rest)
  | _ => none

def isHighUnit (n : Nat) : Bool := 0xD800 ≤ n && n < 0xDC00

def isLowUnit (n : Nat) : Bool := 0xDC00 ≤ n && n < 0xE000

/-- What an escape stands for whose `u` starts the text, two escapes joined to one character where
they form a pair. -/
def readUnicodeEscape (s : List Char) : Except Stop (Glyph × List Char) :=
  match readHex4 (s.drop 1) with
  | none => stop .invalidUnicodeEscape s
  | some (high, rest) =>
    if isHighUnit high then
      match rest with
      | '\\' :: 'u' :: more =>
        if more.length < 5 then .ok (.unit high, rest)
        else match readHex4 more with
          | none => stop .invalidUnicodeEscape ('u' :: more)
          | some (low, after) =>
            if isLowUnit low then
              .ok (.char (Char.ofNat (0x10000 + (high - 0xD800) * 1024 + (low - 0xDC00))), after)
            else .ok (.unit high, rest)
      | _ => .ok (.unit high, rest)
    else if isLowUnit high then .ok (.unit high, rest)
    else .ok (.char (Char.ofNat high), rest)

def escapeOf? (c : Char) : Option Char :=
  match c with
  | '"' => some '"'
  | '\\' => some '\\'
  | '/' => some '/'
  | 'b' => some (Char.ofNat 8)
  | 'f' => some (Char.ofNat 12)
  | 'n' => some '\n'
  | 'r' => some '\r'
  | 't' => some '\t'
  | _ => none

/-- The rest of a string after its opening quote, where `opened` characters were left at that
quote. The fuel bounds the number of characters. -/
def readString (opened : Nat) : Nat → List Char → Except Stop (List Glyph × List Char)
  | 0, _ => .error (.fault .unterminatedString opened)
  | _ + 1, [] => .error (.fault .unterminatedString opened)
  | _ + 1, '"' :: rest => .ok ([], rest)
  | _ + 1, ['\\'] => .error (.fault .unterminatedString opened)
  | fuel + 1, '\\' :: 'u' :: rest => do
    let (glyph, rest) ← readUnicodeEscape ('u' :: rest)
    let (more, rest) ← readString opened fuel rest
    return (glyph :: more, rest)
  | fuel + 1, '\\' :: c :: rest =>
    match escapeOf? c with
    | none => stop .invalidEscape ('\\' :: c :: rest)
    | some c => do
      let (more, rest) ← readString opened fuel rest
      return (.char c :: more, rest)
  | fuel + 1, c :: rest =>
    if c.toNat < 32 then stop .controlCharacter (c :: rest)
    else do
      let (more, rest) ← readString opened fuel rest
      return (.char c :: more, rest)

def readQuoted (s : List Char) : Except Stop (List Glyph × List Char) :=
  match s with
  | '"' :: rest => readString s.length (rest.length + 1) rest
  | _ => stop .nameExpected s

def isDigit (c : Char) : Bool := '0' ≤ c && c ≤ '9'

def digitsValue (digits : List Char) : Nat :=
  digits.foldl (fun n c => 10 * n + (c.toNat - 48)) 0

/-- The digits of a whole number without needless zeros in front, and what follows. -/
def readWhole? (s : List Char) : Option (List Char × List Char) :=
  match s with
  | '0' :: rest => some (['0'], rest)
  | c :: _ => if isDigit c then some (s.span isDigit) else none
  | [] => none

/-- The digits after a point, if any. -/
def readFraction (s : List Char) : Option (List Char × List Char) :=
  match s with
  | '.' :: c :: rest => if isDigit c then some ((c :: rest).span isDigit) else none
  | _ => none

/-- The exponent, if one with digits follows. -/
def readExponent (s : List Char) : Option (Int × List Char) :=
  match s with
  | e :: rest =>
    if e == 'e' || e == 'E' then
      let (sign, rest) := match rest with
        | '-' :: r => (-1, r)
        | '+' :: r => (1, r)
        | r => ((1 : Int), r)
      let (digits, after) := rest.span isDigit
      if digits.isEmpty then none else some (sign * digitsValue digits, after)
    else none
  | [] => none

/-- The float nearest to a decimal. Exponents beyond the reach of a float are cut first. -/
def nearestFloat (negative : Bool) (digits : Nat) (exponent : Int) : Float :=
  let size := (Nat.toDigits 10 digits).length
  let x :=
    if digits == 0 || exponent + size < -400 then 0.0
    else if exponent + size > 400 then 1.0 / 0.0
    else if 0 ≤ exponent then Float.ofScientific digits false exponent.toNat
    else Float.ofScientific digits true (-exponent).toNat
  if negative then -x else x

def readNumber (s : List Char) : Except Stop (Json × List Char) :=
  let (negative, body) := match s with
    | '-' :: rest => (true, rest)
    | _ => (false, s)
  match readWhole? body with
  | none => stop .valueExpected s
  | some (whole, rest) =>
    let fraction := readFraction rest
    let afterFraction := (fraction.map Prod.snd).getD rest
    let exponent := readExponent afterFraction
    if fraction.isNone && exponent.isNone then
      if maxDigits < whole.length then .error (.tooManyDigits whole.length)
      else
        let n := digitsValue whole
        .ok (.int (if negative then -(n : Int) else n), rest)
    else
      let places := (fraction.map Prod.fst).getD []
      let e := (exponent.map Prod.fst).getD 0
      .ok (.float (nearestFloat negative (digitsValue (whole ++ places)) (e - places.length)),
        (exponent.map Prod.snd).getD afterFraction)

def words : List (String × Json) :=
  [("null", .null), ("true", .bool true), ("false", .bool false), ("NaN", .float (0.0 / 0.0)),
    ("Infinity", .float (1.0 / 0.0)), ("-Infinity", .float (-1.0 / 0.0))]

def readWord (s : List Char) : Option (Json × List Char) :=
  (words.find? fun (word, _) => word.toList.isPrefixOf s).map fun (word, value) =>
    (value, s.drop word.length)

/-- Whether a word is looked up, which takes a call. -/
def isLookedUp : Json → Bool
  | .float _ => true
  | _ => false

mutual

/-- A value at the front of the text, with room for so many calls. The fuel has to be more than
twice the length of the text: a bracket takes one for the value and one for what it holds. -/
def readValue : Nat → Nat → List Char → Except Stop (Json × List Char)
  | _, 0, s => stop .valueExpected s
  | room, fuel + 1, s => match s with
    | '"' :: _ =>
      ((readQuoted s).mapError (·.within room)).map fun (glyphs, rest) => (.ofGlyphs glyphs, rest)
    | '[' :: rest => match room with
      | 0 => .error (.tooDeep .array)
      | room + 1 => match skipSpace rest with
        | ']' :: after => .ok (.array [], after)
        | inner => (readItems room fuel inner).map fun (items, rest) => (.array items, rest)
    | '\x7b' :: rest => match room with
      | 0 => .error (.tooDeep .object)
      | room + 1 => match skipSpace rest with
        | '\x7d' :: after => .ok (.object [], after)
        | inner =>
          (readMembers room fuel [] inner).map fun (members, rest) => (.ofMembers members, rest)
    | _ => match readWord s with
      | some (value, rest) =>
        if isLookedUp value && room = 0 then .error (.tooDeep .call) else .ok (value, rest)
      | none => readNumber s

def readItems : Nat → Nat → List Char → Except Stop (List Json × List Char)
  | _, 0, s => stop .valueExpected s
  | room, fuel + 1, s => do
    let (item, rest) ← readValue room fuel s
    match skipSpace rest with
    | ']' :: after => return ([item], after)
    | ',' :: more =>
      let (items, rest) ← readItems room fuel (skipSpace more)
      return (item :: items, rest)
    | other => (stop .commaExpected other).mapError (·.within room)

/-- The members of an object up to its end, added to those already read. -/
def readMembers : Nat → Nat → List (List Glyph × Json) → List Char →
    Except Stop (List (List Glyph × Json) × List Char)
  | _, 0, _, s => stop .valueExpected s
  | room, fuel + 1, members, s => do
    let (name, rest) ← (readQuoted s).mapError (·.within room)
    match skipSpace rest with
    | ':' :: rest =>
      let (value, rest) ← readValue room fuel (skipSpace rest)
      let members := FieldMap.setEntry name value members
      match skipSpace rest with
      | '\x7d' :: after => return (members, after)
      | ',' :: more => readMembers room fuel members (skipSpace more)
      | other => (stop .commaExpected other).mapError (·.within room)
    | other => (stop .colonExpected other).mapError (·.within room)

end

/-- What is wrong with a text that is no JSON, and where. -/
inductive ReadError where
  /-- A fault at a zero-based position; lines and columns count from one. -/
  | malformed (kind : ReadFault) (line column position : Nat)
  | tooManyDigits (count : Nat)
  | tooDeep (crowd : Crowd)
  deriving DecidableEq

/-- What was going on when there was no more room. -/
def Crowd.wording : Crowd → String
  | .array => "decoding a JSON array from a unicode string"
  | .object => "decoding a JSON object from a unicode string"
  | .call => "calling a Python object"

/-- The wording of an error. -/
def ReadError.message : ReadError → String
  | .malformed kind line column position =>
    s!"{kind.message}: line {line} column {column} (char {position})"
  | .tooManyDigits count => Text.tooManyDigits count
  | .tooDeep crowd => s!"maximum recursion depth exceeded while {crowd.wording}"

/-- Turns what was left of a text into a place in it. -/
def Stop.locate (text : List Char) : Stop → ReadError
  | .tooManyDigits count => .tooManyDigits count
  | .tooDeep crowd => .tooDeep crowd
  | .fault kind left =>
    let position := text.length - left
    let before := text.take position
    let lastLine := (before.reverse.takeWhile (· != '\n')).length
    .malformed kind (before.count '\n' + 1) (lastLine + 1) position

/-- Reads a text that holds one value and blanks around it, with room for so many calls. -/
def readWithin (room : Nat) (text : List Char) : Except ReadError Json :=
  let attempt : Except Stop Json := do
    if text.head? == some (Char.ofNat 0xFEFF) then
      throw (.fault .byteOrderMark text.length)
    let (value, rest) ← readValue room (2 * text.length + 1) (skipSpace text)
    match skipSpace rest with
    | [] => return value
    | other => stop .extraData other
  attempt.mapError (Stop.locate text)

/-- Reads a text with room for all calls: no more brackets are open than the text has characters,
and a fault in the last of them has to be reported. -/
def read (text : List Char) : Except ReadError Json :=
  readWithin (text.length + reportCalls) text

/-- `read` on strings. -/
def parse (text : String) : Except ReadError Json := read text.toList

end PageHarvest.Json
