import PageHarvest.Extract.Engine

/-! # Evaluating paths

A path walks through a document from its start. A step that moves and finds nothing ends the walk;
what has been read by then is kept.
-/

namespace PageHarvest

/-- What evaluating one path gives. -/
structure PathResult where
  fields : FieldMap String := .empty
  values : List String := []
  deriving DecidableEq, Inhabited

namespace Engine

variable {m : Type → Type} [Monad m] {E : Type}

/-- Follows the steps from an element, adding to a result. -/
def walk (engine : Engine m E) : List Step → E → PathResult → m PathResult
  | [], _, result => return result
  | .descend anchor :: rest, current, result => do
    match ← engine.anchor anchor current with
    | some next => engine.walk rest next result
    | none => return result
  | .populate specs :: rest, current, result => do
    let fields ← engine.populateAll current specs.entries result.fields
    engine.walk rest current { result with fields }
  | .find spec :: rest, current, result => do
    let found ← engine.findValues spec current
    engine.walk rest current { result with values := result.values ++ found }

def evaluate (engine : Engine m E) (path : Path) (document : E) : m PathResult :=
  match path with
  | .empty => return {}
  | .anchored start steps => do
    match ← engine.anchor start document with
    | some element => engine.walk steps element {}
    | none => return {}

end Engine

end PageHarvest
