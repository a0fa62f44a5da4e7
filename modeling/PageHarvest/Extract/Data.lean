import PageHarvest.Extract.Record
import PageHarvest.Path.Check
import PageHarvest.Path.Data

/-! # Records and specifications as data

How search specifications, path results and records are written as data and read from it.
-/

namespace PageHarvest

open Validate

def SearchSpec.toJson (spec : SearchSpec) : Json :=
  .object [("fields", .ofFields spec.fields FieldSpec.toJson),
    ("paths", .array (spec.paths.map Path.toJson))]

def SearchSpec.check : Check SearchSpec :=
  model "SearchSpec" fun members =>
    SearchSpec.mk <$> optional members "fields" .empty (map FieldSpec.check) <*>
      optional members "paths" [] (list Path.check .tupleExpected)

def PathResult.toJson (result : PathResult) : Json :=
  .object [("fields", .ofFields result.fields .string), ("values", .strings result.values)]

def PathResult.check : Check PathResult :=
  model "PathResult" fun members =>
    PathResult.mk <$> optional members "fields" .empty (map text) <*>
      optional members "values" [] (list text)

def Record.toJson (record : Record) : Json :=
  .object [("url", .ofString? record.url), ("fields", .ofFields record.fields .string),
    ("values", .strings record.values)]

def Record.check : Check Record :=
  model "Record" fun members =>
    Record.mk <$> optional members "url" none (orNull text) <*>
      optional members "fields" .empty (map text) <*> optional members "values" [] (list text)

end PageHarvest
