import PageHarvest.Path.Basic
import PageHarvest.Validate.Scalar

/-! # Paths from data

Reads paths and their parts from data. Members that are left out take their usual values, members
that are not known are passed over, and the steps of a path have to form one.
-/

namespace PageHarvest

open Validate

def Selection.checkSingle : Check Selection :=
  model "Single" fun members =>
    (fun _ index => .single index) <$> ownKind members "single" <*>
      optional members "index" 0 natural

def Selection.checkAll : Check Selection :=
  model "All" fun members =>
    (fun _ delimiter => .all delimiter) <$> ownKind members "all" <*>
      optional members "delimiter" "" text

def Selection.check : Check Selection :=
  oneOf [("single", Selection.checkSingle), ("all", Selection.checkAll)]

def Destination.check : Check Destination :=
  model "Destination" fun members =>
    Destination.mk <$> required members "query" text <*>
      optional members "selection" (.single 0) Selection.check

/-- Why a destination cannot be an anchor. -/
def anchorRefusal : String := "only a single element selection can anchor a step"

/-- The anchor of a destination that takes a single match. -/
def Destination.anchor (d : Destination) : Checked Anchor :=
  match d.selection with
  | .single index => .sound ⟨d.query, index⟩
  | .all _ => .fail (.refused anchorRefusal)

def Anchor.check : Check Anchor := fun json => (Destination.check json).andThen Destination.anchor

def Target.checkText : Check Target :=
  model "Text" fun members => (fun _ => .text) <$> ownKind members "text"

def Target.checkAttribute : Check Target :=
  model "Attribute" fun members =>
    (fun _ name => .attribute name) <$> ownKind members "attribute" <*>
      required members "name" Validate.text

def Target.checkId : Check Target :=
  model "Id" fun members => (fun _ => .id) <$> ownKind members "id"

def Target.checkClass : Check Target :=
  model "Class" fun members => (fun _ => .classes) <$> ownKind members "class"

def Target.check : Check Target :=
  oneOf [("text", Target.checkText), ("attribute", Target.checkAttribute), ("id", Target.checkId),
    ("class", Target.checkClass)]

def FieldSpec.check : Check FieldSpec :=
  model "FieldSpec" fun members =>
    FieldSpec.mk <$> required members "destination" Destination.check <*>
      optional members "target" .text Target.check

def LooseStep.checkStart : Check LooseStep :=
  model "Start" fun members =>
    (fun _ anchor => .start anchor) <$> ownKind members "start" <*>
      required members "destination" Anchor.check

def LooseStep.checkDescend : Check LooseStep :=
  model "Descend" fun members =>
    (fun _ anchor => .later (.descend anchor)) <$> ownKind members "descend" <*>
      required members "destination" Anchor.check

def LooseStep.checkPopulate : Check LooseStep :=
  model "Populate" fun members =>
    (fun _ fields => .later (.populate fields)) <$> ownKind members "populate" <*>
      optional members "fields" .empty (map FieldSpec.check)

def LooseStep.checkFind : Check LooseStep :=
  model "Find" fun members =>
    (fun _ field => .later (.find field)) <$> ownKind members "find" <*>
      required members "field" FieldSpec.check

def LooseStep.check : Check LooseStep :=
  oneOf [("start", LooseStep.checkStart), ("descend", LooseStep.checkDescend),
    ("populate", LooseStep.checkPopulate), ("find", LooseStep.checkFind)]

def Path.ofSteps (steps : List LooseStep) : Checked Path :=
  match Path.ofSteps? steps with
  | .ok path => .sound path
  | .error fault => .fail (.refused fault.message)

def Path.check : Check Path :=
  model "Path" fun members =>
    (optional members "steps" [] (list LooseStep.check .tupleExpected)).andThen Path.ofSteps

end PageHarvest
