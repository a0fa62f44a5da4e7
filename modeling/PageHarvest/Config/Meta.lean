import PageHarvest.FieldMap
import PageHarvest.Json.Basic

/-! # The nested layout

A configuration may keep most of its members in one member called `meta`. They count as members of
the whole, where members at the top win. Inside `meta` the link prefix has a second name, which
gives way to the first. What stands for nothing counts as an empty `meta`, and so does a list of
pairs for an object.
-/

namespace PageHarvest.Config

/-- What kind of value stands where it cannot. -/
inductive ValueKind where
  | whole | number | truth | list | map
  deriving DecidableEq, Inhabited

def ValueKind.name : ValueKind → String
  | .whole => "int"
  | .number => "float"
  | .truth => "bool"
  | .list => "list"
  | .map => "dict"

/-- Why a `meta` has no members. -/
inductive MetaFault where
  | noMembers (kind : ValueKind)
  | noPair (index : Nat)
  | noName (kind : ValueKind)
  /-- A member of a list of pairs has the wrong number of parts. -/
  | wrongLength (index length : Nat)
  deriving DecidableEq, Inhabited

def MetaFault.message : MetaFault → String
  | .noMembers kind => s!"'{kind.name}' object is not iterable"
  | .noPair index => s!"cannot convert dictionary update sequence element #{index} to a sequence"
  | .noName kind => s!"unhashable type: '{kind.name}'"
  | .wrongLength index length =>
    s!"dictionary update sequence element #{index} has length {length}; 2 is required"

def charTexts (s : String) : List Json := s.toList.map fun c => .string c.toString

def glyphTexts (glyphs : List Glyph) : List Json := glyphs.map fun glyph => .ofGlyphs [glyph]

def pairParts? : Json → Option (List Json)
  | .string s => some (charTexts s)
  | .torn glyphs => some (glyphTexts glyphs)
  | .array items => some items
  | .object members => some (members.map fun (name, _) => .string name)
  | .tornObject members => some (members.map fun (name, _) => .ofGlyphs name)
  | _ => none

/-- The member that two parts stand for; names other than texts of characters name nothing. -/
def memberOf (name value : Json) : Except MetaFault (Option (String × Json)) :=
  match name with
  | .string s => .ok (some (s, value))
  | .array _ => .error (.noName .list)
  | .object _ | .tornObject _ => .error (.noName .map)
  | _ => .ok none

/-- The members that a list of pairs stands for, from the pair at `index` on. -/
def pairMembers (index : Nat) : List Json → Except MetaFault (List (String × Json))
  | [] => .ok []
  | item :: rest =>
    match pairParts? item with
    | none => .error (.noPair index)
    | some [name, value] => do
      let found ← memberOf name value
      return found.toList ++ (← pairMembers (index + 1) rest)
    | some parts => .error (.wrongLength index parts.length)

/-- The members of a `meta`. -/
def metaMembers : Json → Except MetaFault (List (String × Json))
  | .null => .ok []
  | .object members => .ok members
  | .tornObject members =>
    .ok (members.filterMap fun (name, value) => (Glyph.spell? name).map (·, value))
  | .bool false => .ok []
  | .bool true => .error (.noMembers .truth)
  | .int n => if n == 0 then .ok [] else .error (.noMembers .whole)
  | .float x => if x == 0 then .ok [] else .error (.noMembers .number)
  | .string s => pairMembers 0 (charTexts s)
  | .torn glyphs => pairMembers 0 (glyphTexts glyphs)
  | .array items => pairMembers 0 items

/-- The name that the link prefix has inside `meta` only. -/
def prefixAlias : String := "prepend_links"

def prefixName : String := "link_prefix"

/-- Gives the second name of the link prefix the value of the first, unless that has one. -/
def renamePrefix (members : FieldMap Json) : List (String × Json) :=
  let others := members.entries.filter (·.1 != prefixAlias)
  match members.get? prefixAlias with
  | none => others
  | some value => if members.contains prefixName then others else others ++ [(prefixName, value)]

/-- Adds members under names that are not there yet. -/
def addMissing (members more : List (String × Json)) : List (String × Json) :=
  members ++ more.filter fun (name, _) => (members.lookup name).isNone

/-- The members of a configuration, those of its `meta` included. -/
def flatten (members : List (String × Json)) : Except MetaFault (List (String × Json)) :=
  match members.lookup "meta" with
  | none => .ok members
  | some nested => do
    let inner ← metaMembers nested
    return addMissing (members.filter (·.1 != "meta")) (renamePrefix (FieldMap.ofList inner))

end PageHarvest.Config
