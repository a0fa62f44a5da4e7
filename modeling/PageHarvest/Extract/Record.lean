import PageHarvest.Extract.Evaluate

/-! # Records

A record is what one document gives: the standalone fields first, then what each path reads, in the
order of the paths. A path overwrites the named values that it sets again, and its unnamed values
go last.
-/

namespace PageHarvest

/-- Everything to read from one document. -/
structure SearchSpec where
  fields : FieldMap FieldSpec := .empty
  paths : List Path := []
  deriving DecidableEq, Inhabited

/-- What was read from one document, and where the document came from. -/
structure Record where
  url : Option String := none
  fields : FieldMap String := .empty
  values : List String := []
  deriving DecidableEq, Inhabited

namespace Record

def add (record : Record) (result : PathResult) : Record :=
  { record with
    fields := record.fields.merge result.fields
    values := record.values ++ result.values }

end Record

namespace SearchSpec

/-- One more standalone field, or another one under a name already there. -/
def withField (spec : SearchSpec) (name : String) (field : FieldSpec) : SearchSpec :=
  { spec with fields := spec.fields.set name field }

/-- One more standalone field, which reads the attribute called `label` exactly as it is given. -/
def withAttribute (spec : SearchSpec) (name query label : String)
    (selection : Selection := .single 0) : SearchSpec :=
  spec.withField name ⟨⟨query, selection⟩, .attribute label⟩

/-- One more path, after all others. -/
def withPath (spec : SearchSpec) (path : Path) : SearchSpec :=
  { spec with paths := spec.paths ++ [path] }

end SearchSpec

namespace Engine

variable {m : Type → Type} [Monad m] {E : Type}

/-- Evaluates paths one after the other and adds what they read to a record. -/
def addPaths (engine : Engine m E) (document : E) : List Path → Record → m Record
  | [], record => return record
  | path :: rest, record => do
    let result ← engine.evaluate path document
    engine.addPaths document rest (record.add result)

def populate (engine : Engine m E) (spec : SearchSpec) (url : Option String) (document : E) :
    m Record := do
  let fields ← engine.populateAll document spec.fields.entries .empty
  engine.addPaths document spec.paths { url, fields }

end Engine

end PageHarvest
