import PageHarvest.Text.Blank
import PageHarvest.Text.Integer
import PageHarvest.Text.Lowercase
import PageHarvest.Text.Search

/-! # Names of styles

A style is named by words for its features and colours. Names with the same features mean the same
style, so every name has a canonical form. A name that means no style is its own canonical form,
up to case and outer blanks.
-/

namespace PageHarvest.Console

open Text

/-- Features in the order of the canonical form, each with its other names. -/
def features : List (String × List String) := [
  ("bold", ["b"]), ("dim", ["d"]), ("italic", ["i"]), ("underline", ["u"]), ("blink", []),
  ("blink2", []), ("reverse", ["r"]), ("conceal", ["c"]), ("strike", ["s"]),
  ("underline2", ["uu"]), ("frame", []), ("encircle", []), ("overline", ["o"])]

def feature? (word : String) : Option String :=
  (features.find? fun (name, others) => name = word || others.contains word).map Prod.fst

def colours : List String := [
  "default", "black", "red", "green", "yellow", "blue", "magenta", "cyan", "white",
  "bright_black", "bright_red", "bright_green", "bright_yellow", "bright_blue",
  "bright_magenta", "bright_cyan", "bright_white", "grey0", "gray0", "navy_blue", "dark_blue",
  "blue3", "blue1", "dark_green", "deep_sky_blue4", "dodger_blue3", "dodger_blue2", "green4",
  "spring_green4", "turquoise4", "deep_sky_blue3", "dodger_blue1", "green3", "spring_green3",
  "dark_cyan", "light_sea_green", "deep_sky_blue2", "deep_sky_blue1", "spring_green2", "cyan3",
  "dark_turquoise", "turquoise2", "green1", "spring_green1", "medium_spring_green", "cyan2",
  "cyan1", "dark_red", "deep_pink4", "purple4", "purple3", "blue_violet", "orange4", "grey37",
  "gray37", "medium_purple4", "slate_blue3", "royal_blue1", "chartreuse4", "dark_sea_green4",
  "pale_turquoise4", "steel_blue", "steel_blue3", "cornflower_blue", "chartreuse3",
  "cadet_blue", "sky_blue3", "steel_blue1", "pale_green3", "sea_green3", "aquamarine3",
  "medium_turquoise", "chartreuse2", "sea_green2", "sea_green1", "aquamarine1",
  "dark_slate_gray2", "dark_magenta", "dark_violet", "purple", "light_pink4", "plum4",
  "medium_purple3", "slate_blue1", "yellow4", "wheat4", "grey53", "gray53", "light_slate_grey",
  "light_slate_gray", "medium_purple", "light_slate_blue", "dark_olive_green3",
  "dark_sea_green", "light_sky_blue3", "sky_blue2", "dark_sea_green3", "dark_slate_gray3",
  "sky_blue1", "chartreuse1", "light_green", "pale_green1", "dark_slate_gray1", "red3",
  "medium_violet_red", "magenta3", "dark_orange3", "indian_red", "hot_pink3", "medium_orchid3",
  "medium_orchid", "medium_purple2", "dark_goldenrod", "light_salmon3", "rosy_brown", "grey63",
  "gray63", "medium_purple1", "gold3", "dark_khaki", "navajo_white3", "grey69", "gray69",
  "light_steel_blue3", "light_steel_blue", "yellow3", "dark_sea_green2", "light_cyan3",
  "light_sky_blue1", "green_yellow", "dark_olive_green2", "dark_sea_green1", "pale_turquoise1",
  "deep_pink3", "magenta2", "hot_pink2", "orchid", "medium_orchid1", "orange3", "light_pink3",
  "pink3", "plum3", "violet", "light_goldenrod3", "tan", "misty_rose3", "thistle3", "plum2",
  "khaki3", "light_goldenrod2", "light_yellow3", "grey84", "gray84", "light_steel_blue1",
  "yellow2", "dark_olive_green1", "honeydew2", "light_cyan1", "red1", "deep_pink2",
  "deep_pink1", "magenta1", "orange_red1", "indian_red1", "hot_pink", "dark_orange", "salmon1",
  "light_coral", "pale_violet_red1", "orchid2", "orchid1", "orange1", "sandy_brown",
  "light_salmon1", "light_pink1", "pink1", "plum1", "gold1", "navajo_white1", "misty_rose1",
  "thistle1", "yellow1", "light_goldenrod1", "khaki1", "wheat1", "cornsilk1", "grey100",
  "gray100", "grey3", "gray3", "grey7", "gray7", "grey11", "gray11", "grey15", "gray15",
  "grey19", "gray19", "grey23", "gray23", "grey27", "gray27", "grey30", "gray30", "grey35",
  "gray35", "grey39", "gray39", "grey42", "gray42", "grey46", "gray46", "grey50", "gray50",
  "grey54", "gray54", "grey58", "gray58", "grey62", "gray62", "grey66", "gray66", "grey70",
  "gray70", "grey74", "gray74", "grey78", "gray78", "grey82", "gray82", "grey85", "gray85",
  "grey89", "gray89", "grey93", "gray93"]

/-- Whether a character is a hexadecimal digit in lower case. -/
def isHexDigit (c : Char) : Bool := ('0' ≤ c && c ≤ '9') || ('a' ≤ c && c ≤ 'f')

/-- Why a name means no style. -/
inductive StyleFault where
  | unknown
  /-- A part of a colour cannot be read as a number. -/
  | noNumber (part : List Char)
  deriving DecidableEq, Inhabited

def bracketed? (word : String) (s : List Char) : Option (List Char) :=
  match cut (word.toList ++ ['(']) s with
  | some ([], rest) => if rest.getLast? = some ')' then some rest.dropLast else none
  | _ => none

/-- Three parts of a colour. -/
def checkParts (parts : List (List Char)) : Except StyleFault Unit := do
  if parts.length ≠ 3 then throw .unknown
  let numbers ← parts.mapM fun part => match readNatural? part with
    | some n => .ok n
    | none => .error (.noNumber part)
  if !numbers.all (· ≤ 255) then throw .unknown

/-- Checks that a word in lower case means a colour: a name, six hexadecimal digits, a number or
three parts. -/
def checkColour (word : List Char) : Except StyleFault Unit :=
  if colours.contains (String.ofList word) then .ok ()
  else match word, bracketed? "color" word, bracketed? "rgb" word with
    | '#' :: digits, _, _ =>
      if digits.length = 6 && digits.all isHexDigit then .ok () else .error .unknown
    | _, some digits, _ =>
      if digits.length ≤ 3 && digits.all (fun c => '0' ≤ c && c ≤ '9') &&
        (readNatural? digits).any (· ≤ 255) then .ok () else .error .unknown
    | _, _, some parts =>
      if parts.isEmpty || !parts.all (fun c => c = ',' || (digitValue? c).isSome) then
        .error .unknown
      else checkParts (splitAt [','] parts)
    | _, none, none => .error .unknown

/-- What a name says about a style. -/
structure Style where
  /-- Features that are switched on or off; what is said last counts. -/
  switched : List (String × Bool) := []
  colour : Option (List Char) := none
  background : Option (List Char) := none
  link : Option (List Char) := none
  deriving DecidableEq

def Style.read (style : Style) : List (List Char) → Except StyleFault Style
  | [] => .ok style
  | written :: rest =>
    let word := lower written
    if word = "on".toList then
      match rest with
      | [] => .error .unknown
      | colour :: rest => do
        checkColour (lower colour)
        read { style with background := some (lower colour) } rest
    else if word = "not".toList then
      match rest with
      | [] => .error .unknown
      | name :: rest => match feature? (String.ofList name) with
        | some feature => read { style with switched := (feature, false) :: style.switched } rest
        | none => .error .unknown
    else if word = "link".toList then
      match rest with
      | [] => .error .unknown
      | address :: rest => read { style with link := some address } rest
    else match feature? (String.ofList word) with
      | some feature => read { style with switched := (feature, true) :: style.switched } rest
      | none => do
        checkColour word
        read { style with colour := some word } rest

/-- The words of the canonical name of a style. -/
def Style.words (style : Style) : List (List Char) :=
  (features.flatMap fun (name, _) => match style.switched.lookup name with
    | some true => [name.toList]
    | some false => ["not".toList, name.toList]
    | none => []) ++
  style.colour.toList ++
  (style.background.toList.flatMap fun colour => ["on".toList, colour]) ++
  (style.link.toList.flatMap fun address => ["link".toList, address])

/-- The words of a text, which blanks separate. -/
def blankSeparated (s : List Char) : List (List Char) :=
  (s.splitBy fun a b => isBlank a = isBlank b).filter fun word => !word.all isBlank

/-- The canonical form of a name, or the part of a colour in it that is no number. -/
def canonicalStyle (name : List Char) : Except (List Char) (List Char) :=
  let plain := lower (trim name)
  if trim name = "none".toList then .ok plain
  else match Style.read {} (blankSeparated name) with
    | .ok style =>
      let words := style.words
      .ok (if words.isEmpty then "none".toList else [' '].intercalate words)
    | .error .unknown => .ok plain
    | .error (.noNumber part) => .error part

/-- Looks a style up by its name and a parameter; a name that means no style does no harm. -/
def lookUp (name parameter : List Char) : Except (List Char) Unit :=
  match Style.read {} (blankSeparated name ++ blankSeparated parameter) with
  | .error (.noNumber part) => .error part
  | _ => .ok ()

end PageHarvest.Console
