import PageHarvest.Path.Check

/-! # Building paths call by call

A builder collects steps in the order of the calls. Positions are checked at once, the order of the
steps only when the path is built; building takes nothing away, so a builder can go on afterwards.
-/

namespace PageHarvest

open Validate

/-- A selection of the match at a position. -/
def Selection.ofIndex (index : Int) : Except Invalid Selection :=
  match (integerFrom 0 (.int index)).under (.name "index") with
  | .sound index => .ok (.single index.toNat)
  | .unsound issues => .error ⟨"Single", issues⟩

/-- An anchor at the match at a position. -/
def Anchor.ofIndex (query : String) (index : Int) : Except Invalid Anchor :=
  match (integerFrom 0 (.int index)).under (.name "index") with
  | .sound index => .ok ⟨query, index.toNat⟩
  | .unsound issues => .error ⟨"Single", issues⟩

/-- The step of a path at a position; negative positions count from the end. -/
def Path.step? (path : Path) (index : Int) : Option LooseStep :=
  let position := if index < 0 then index + path.length else index
  if position < 0 then none else path.toSteps[position.toNat]?

/-- The steps of a path to be. -/
structure PathBuilder where
  steps : List LooseStep := []
  deriving DecidableEq, Inhabited

namespace PathBuilder

def add (builder : PathBuilder) (step : LooseStep) : PathBuilder :=
  ⟨builder.steps ++ [step]⟩

/-- Starts at a match in the whole document. -/
def start (builder : PathBuilder) (query : String) (index : Int := 0) :
    Except Invalid PathBuilder := do
  return builder.add (.start (← Anchor.ofIndex query index))

/-- Moves to a match inside the current element. -/
def descend (builder : PathBuilder) (query : String) (index : Int := 0) :
    Except Invalid PathBuilder := do
  return builder.add (.later (.descend (← Anchor.ofIndex query index)))

/-- Reads several named values. -/
def populate (builder : PathBuilder) (fields : FieldMap FieldSpec) : PathBuilder :=
  builder.add (.later (.populate fields))

/-- Reads one named value. -/
def populateOne (builder : PathBuilder) (name query : String) (selection : Selection := .single 0)
    (target : Target := .text) : PathBuilder :=
  builder.populate (.single name ⟨⟨query, selection⟩, target⟩)

/-- Collects the value of one match. -/
def findOne (builder : PathBuilder) (query : String) (index : Int := 0) (target : Target := .text) :
    Except Invalid PathBuilder := do
  return builder.add (.later (.find ⟨⟨query, ← Selection.ofIndex index⟩, target⟩))

/-- Collects the values of all matches. -/
def findAll (builder : PathBuilder) (query : String) (delimiter : String := "")
    (target : Target := .text) : PathBuilder :=
  builder.add (.later (.find ⟨⟨query, .all delimiter⟩, target⟩))

def build (builder : PathBuilder) : Except Invalid Path :=
  (Path.ofSteps builder.steps).result "Path"

end PathBuilder

end PageHarvest
