import PageHarvest.Config.Meta
import PageHarvest.Validate.Scalar

/-! # Configurations

Everything that a run needs, read from data in the flat or in the nested layout.
-/

namespace PageHarvest

open Validate

/-- A configuration. -/
structure CrawlConfig where
  /-- `single` reads the base URL only, `multiple` crawls the links found there. -/
  populator : String := "single"
  baseUrl : String
  /-- Path texts for every document. -/
  paths : List String := []
  /-- The path text whose unnamed values are the links to follow. -/
  linkPath : Option String := none
  /-- The extension of page URLs. -/
  paging : Option String := none
  maxPages : Option Nat := none
  linkPrefix : Option String := none
  /-- Field texts for every document, by name. -/
  fields : FieldMap String := .empty
  parallel : Bool := true
  workers : Int := 8
  /-- Seconds after which no further link is started. -/
  deadline : Option Float := none
  deriving Inhabited

namespace CrawlConfig

/-- A configuration from the members of the flat layout. -/
def checkMembers (members : List (String × Json)) : Checked CrawlConfig :=
  CrawlConfig.mk <$> optional members "populator" "single" text <*>
    required members "base_url" text <*>
    optional members "paths" [] (list text) <*>
    optional members "link_path" none (orNull text) <*>
    optional members "paging" none (orNull text) <*>
    optional members "max_pages" none (orNull natural) <*>
    optional members "link_prefix" none (orNull text) <*>
    optional members "fields" .empty (map text) <*>
    optional members "parallel" true bool <*>
    optional members "workers" 8 (integerFrom 1) <*>
    optional members "deadline" none (orNull positive)

/-- A configuration from data. A list of pairs with a pair of the wrong length is an issue of the
data; any other fault of the nested layout ends the check. -/
def check (json : Json) : Except Config.MetaFault (Checked CrawlConfig) :=
  match json.members? with
  | some members =>
    match Config.flatten members with
    | .ok members => .ok (checkMembers members)
    | .error (.wrongLength index length) =>
      .ok (.fail (.refused (Config.MetaFault.wrongLength index length).message))
    | .error fault => .error fault
  | none => .ok (.fail (.modelExpected "CrawlConfig"))

def toJson (config : CrawlConfig) : Json :=
  .object [
    ("populator", .string config.populator), ("base_url", .string config.baseUrl),
    ("paths", .strings config.paths), ("link_path", .ofString? config.linkPath),
    ("paging", .ofString? config.paging),
    ("max_pages", (config.maxPages.map Json.nat).getD .null),
    ("link_prefix", .ofString? config.linkPrefix),
    ("fields", .ofFields config.fields .string), ("parallel", .bool config.parallel),
    ("workers", .int config.workers), ("deadline", (config.deadline.map Json.float).getD .null)]

/-- Why there is no configuration in data. -/
inductive Refusal where
  | nested (fault : Config.MetaFault)
  | invalid (invalid : Invalid)
  deriving DecidableEq, Inhabited

/-- A configuration from data, or why there is none. -/
def ofJson (json : Json) : Except Refusal CrawlConfig :=
  match check json with
  | .error fault => .error (.nested fault)
  | .ok checked => (checked.result "CrawlConfig").mapError .invalid

/-- The data of which a report on refused data speaks: that of the flat layout, if there is one. -/
def flatData (json : Json) : Json :=
  match json.get? "meta", json.members? with
  | some _, some members => match Config.flatten members with
    | .ok members => .object members
    | .error _ => json
  | _, _ => json

end CrawlConfig

end PageHarvest
