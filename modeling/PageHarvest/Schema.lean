import PageHarvest.Config.Basic
import PageHarvest.Crawl.Paging
import PageHarvest.Crawl.Result

/-! # All kinds of data

A schema reads data of one kind and writes it with all members. Paths and their parts cannot be
changed once they are made; members of other data can be given any value, which is not checked.
-/

namespace PageHarvest

open Validate

/-- A kind of data. -/
structure Schema where
  name : String
  /-- Whether data of the kind cannot be changed. -/
  frozen : Bool
  /-- Reads data and writes it again with all its members. -/
  normalize : Json → Except Config.MetaFault (Checked Json)

namespace Schema

def of {α : Type} (name : String) (frozen : Bool) (check : Check α) (form : α → Json) : Schema :=
  ⟨name, frozen, fun json => .ok (form <$> check json)⟩

def all : List Schema := [
  of "Single" true Selection.checkSingle Selection.toJson,
  of "All" true Selection.checkAll Selection.toJson,
  of "Destination" true Destination.check Destination.toJson,
  of "Text" true Target.checkText Target.toJson,
  of "Attribute" true Target.checkAttribute Target.toJson,
  of "Id" true Target.checkId Target.toJson,
  of "Class" true Target.checkClass Target.toJson,
  of "FieldSpec" true FieldSpec.check FieldSpec.toJson,
  of "Start" true LooseStep.checkStart LooseStep.toJson,
  of "Descend" true LooseStep.checkDescend LooseStep.toJson,
  of "Populate" true LooseStep.checkPopulate LooseStep.toJson,
  of "Find" true LooseStep.checkFind LooseStep.toJson,
  of "Path" true Path.check Path.toJson,
  of "SearchSpec" true SearchSpec.check SearchSpec.toJson,
  of "PathResult" false PathResult.check PathResult.toJson,
  of "Record" false Record.check Record.toJson,
  of "CrawlFailure" false CrawlFailure.check CrawlFailure.toJson,
  of "CrawlResult" false CrawlResult.check CrawlResult.toJson,
  of "Paging" false Paging.check Paging.toJson,
  ⟨"CrawlConfig", false, fun json => (CrawlConfig.check json).map (CrawlConfig.toJson <$> ·)⟩]

def named? (name : String) : Option Schema := all.find? (·.name == name)

/-- Why a member cannot be given a value. -/
inductive AssignFault where
  | frozen (invalid : Invalid)
  | noMember (kind member : String)
  deriving DecidableEq, Inhabited

/-- Gives a member of data a value, unchecked. -/
def assign (schema : Schema) (data : Json) (member : String) (value : Json) :
    Except AssignFault Json :=
  if schema.frozen then .error (.frozen ⟨schema.name, [⟨[.name member], .frozen⟩]⟩)
  else match data with
    | .object members =>
      if (members.lookup member).isSome then .ok (.object (FieldMap.setEntry member value members))
      else .error (.noMember schema.name member)
    | _ => .error (.noMember schema.name member)

end Schema

/-- A number that the standard grammar can write, or null. -/
def Json.finiteNumber : Json → Json
  | .float x => if x.isNaN || x.isInf then .null else .float x
  | other => other

/-- An object without members that the standard grammar cannot write. -/
def Json.finiteMembers : Json → Json
  | .object members => .object (members.map fun (name, value) => (name, value.finiteNumber))
  | other => other

end PageHarvest
