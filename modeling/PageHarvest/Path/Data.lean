import PageHarvest.Json.Basic
import PageHarvest.Path.Basic

/-! # Paths as data

Every part of a path has a form in JSON. Alternatives carry their name under `kind`, and all
members are written, also those with their usual value.
-/

namespace PageHarvest

def Selection.toJson : Selection → Json
  | .single index => .object [("kind", .string "single"), ("index", .nat index)]
  | .all delimiter => .object [("kind", .string "all"), ("delimiter", .string delimiter)]

def Destination.toJson (d : Destination) : Json :=
  .object [("query", .string d.query), ("selection", d.selection.toJson)]

def Target.toJson : Target → Json
  | .text => .object [("kind", .string "text")]
  | .attribute name => .object [("kind", .string "attribute"), ("name", .string name)]
  | .id => .object [("kind", .string "id")]
  | .classes => .object [("kind", .string "class")]

def FieldSpec.toJson (f : FieldSpec) : Json :=
  .object [("destination", f.destination.toJson), ("target", f.target.toJson)]

def LooseStep.toJson : LooseStep → Json
  | .start anchor =>
    .object [("kind", .string "start"), ("destination", anchor.destination.toJson)]
  | .later (.descend anchor) =>
    .object [("kind", .string "descend"), ("destination", anchor.destination.toJson)]
  | .later (.populate fields) =>
    .object [("kind", .string "populate"), ("fields", .ofFields fields FieldSpec.toJson)]
  | .later (.find field) => .object [("kind", .string "find"), ("field", field.toJson)]

def Path.toJson (path : Path) : Json :=
  .object [("steps", .array (path.toSteps.map LooseStep.toJson))]

end PageHarvest
