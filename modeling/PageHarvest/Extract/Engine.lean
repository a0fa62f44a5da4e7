import PageHarvest.Path.Basic

/-! # Reading fields from an element

What a query engine has to offer, and what reading a field means for any such engine: a single
selection takes one match or misses, a selection of all takes every match in order. Populating joins
what finding lists.
-/

namespace PageHarvest

/-- A query engine over elements `E`, in a monad for whatever queries do besides answering. -/
structure Engine (m : Type → Type) (E : Type) where
  /-- The matches of a selector strictly inside an element, in document order. -/
  query : String → E → m (List E)
  /-- What is read from an element. -/
  read : Target → E → String
  /-- Takes notice of a selector whose match at an index is wanted while there are fewer. -/
  missed (selector : String) (index found : Nat) : m Unit

namespace Engine

variable {m : Type → Type} [Monad m] {E : Type}

def nth (engine : Engine m E) (selector : String) (index : Nat) (root : E) : m (Option E) := do
  let found ← engine.query selector root
  match found[index]? with
  | some element => return some element
  | none =>
    engine.missed selector index found.length
    return none

def anchor (engine : Engine m E) (anchor : Anchor) (root : E) : m (Option E) :=
  engine.nth anchor.query anchor.index root

/-- The values of a field, one per match. -/
def findValues (engine : Engine m E) (spec : FieldSpec) (root : E) : m (List String) :=
  match spec.destination.selection with
  | .all _ => do
    return (← engine.query spec.destination.query root).map (engine.read spec.target)
  | .single index => do
    match ← engine.nth spec.destination.query index root with
    | some element => return [engine.read spec.target element]
    | none => return []

/-- The value of a field as one text; a miss gives the empty text. -/
def populateField (engine : Engine m E) (spec : FieldSpec) (root : E) : m String :=
  match spec.destination.selection with
  | .all delimiter => do
    let found ← engine.query spec.destination.query root
    return delimiter.intercalate (found.map (engine.read spec.target))
  | .single index => do
    match ← engine.nth spec.destination.query index root with
    | some element => return engine.read spec.target element
    | none => return ""

def populateAll (engine : Engine m E) (root : E) :
    List (String × FieldSpec) → FieldMap String → m (FieldMap String)
  | [], fields => return fields
  | (name, spec) :: rest, fields => do
    let value ← engine.populateField spec root
    engine.populateAll root rest (fields.set name value)

end Engine

end PageHarvest
