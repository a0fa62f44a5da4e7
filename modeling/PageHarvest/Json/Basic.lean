import PageHarvest.FieldMap

/-! # JSON values

Whole numbers and floats are kept apart, and the members of an object keep the order in which they
were first written. JSON can spell one half of a pair of units that only together stand for a
character; a text with such a half is kept apart from texts of characters, and so is an object with
a name of that kind.
-/

namespace PageHarvest

/-- A character, or a unit without the other one of its pair. -/
inductive Glyph where
  | char (c : Char)
  | unit (n : Nat)
  deriving DecidableEq, Inhabited

namespace Glyph

def char? : Glyph → Option Char
  | .char c => some c
  | .unit _ => none

/-- The text that glyphs spell, if all of them are characters. -/
def spell? (glyphs : List Glyph) : Option String :=
  (glyphs.mapM char?).map String.ofList

end Glyph

/-- A JSON value. Object members are listed in order; reading never repeats a name. -/
inductive Json where
  | null
  | bool (value : Bool)
  | int (value : Int)
  | float (value : Float)
  | string (value : String)
  /-- A text with a unit that is no character. -/
  | torn (glyphs : List Glyph)
  | array (items : List Json)
  | object (members : List (String × Json))
  /-- An object some of whose names are such texts. -/
  | tornObject (members : List (List Glyph × Json))
  deriving Inhabited

namespace Json

/-- The most digits of a whole number that is read or written. -/
def maxDigits : Nat := 4300

def ofGlyphs (glyphs : List Glyph) : Json :=
  match Glyph.spell? glyphs with
  | some s => .string s
  | none => .torn glyphs

def ofMembers (members : List (List Glyph × Json)) : Json :=
  match members.mapM fun (name, value) => (Glyph.spell? name).map (·, value) with
  | some members => .object members
  | none => .tornObject members

/-- The members of an object, as far as their names are texts of characters. -/
def members? : Json → Option (List (String × Json))
  | .object members => some members
  | .tornObject members =>
    some (members.filterMap fun (name, value) => (Glyph.spell? name).map (·, value))
  | _ => none

def get? (json : Json) (name : String) : Option Json :=
  json.members?.bind (·.lookup name)

/-- A text, or null for none. -/
def ofString? : Option String → Json
  | none => .null
  | some s => .string s

def strings (texts : List String) : Json := .array (texts.map .string)

def nat (n : Nat) : Json := .int n

def ofFields {α : Type} (fields : FieldMap α) (f : α → Json) : Json :=
  .object (fields.entries.map fun (name, value) => (name, f value))

end Json

end PageHarvest
