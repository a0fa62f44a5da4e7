import PageHarvest.FieldMap

/-! # Paths

A path names places in a document by selectors and says what to read there. It is empty, or it
starts at an anchor in the whole document and goes on with steps: a `descend` narrows the current
element, a `populate` reads named values and a `find` collects unnamed ones. Only an anchor may
move the current element, and an anchor always picks one match; these rules are part of the types.
-/

namespace PageHarvest

/-- How many matches of a selector are taken. -/
inductive Selection where
  /-- The match at a zero-based position in document order. -/
  | single (index : Nat)
  /-- Every match, joined by the delimiter where one text is needed. -/
  | all (delimiter : String)
  deriving DecidableEq, Inhabited

/-- A selector and which of its matches to take. -/
structure Destination where
  query : String
  selection : Selection := .single 0
  deriving DecidableEq, Inhabited

/-- A selector and the one match that becomes the current element. -/
structure Anchor where
  query : String
  index : Nat := 0
  deriving DecidableEq, Inhabited

/-- What is read from an element. -/
inductive Target where
  | text
  | attribute (name : String)
  /-- Reserved, reads as the empty text. -/
  | id
  /-- Reserved, reads as the empty text. -/
  | classes
  deriving DecidableEq, Inhabited

/-- Where to look and what to read there. -/
structure FieldSpec where
  destination : Destination
  target : Target := .text
  deriving DecidableEq, Inhabited

/-- A step after the start of a path. -/
inductive Step where
  /-- Moves to a match inside the current element. -/
  | descend (anchor : Anchor)
  /-- Reads named values inside the current element. -/
  | populate (fields : FieldMap FieldSpec)
  /-- Collects unnamed values inside the current element. -/
  | find (field : FieldSpec)
  deriving DecidableEq, Inhabited

/-- A path through a document. -/
inductive Path where
  /-- Reads nothing; what a text without a sound start compiles to. -/
  | empty
  | anchored (start : Anchor) (steps : List Step)
  deriving DecidableEq, Inhabited

/-- A destination that picks the match of an anchor. -/
def Anchor.destination (anchor : Anchor) : Destination :=
  ⟨anchor.query, .single anchor.index⟩

namespace Path

/-- The number of steps, the start included. -/
def length : Path → Nat
  | .empty => 0
  | .anchored _ steps => steps.length + 1

def isEmpty (path : Path) : Bool := path.length == 0

end Path

/-- A step whose place in a path is not yet checked: a start may stand anywhere. -/
inductive LooseStep where
  | start (anchor : Anchor)
  | later (step : Step)
  deriving DecidableEq, Inhabited

/-- Why loose steps do not form a path. -/
inductive PathFault where
  | startMissing
  | startRepeated
  deriving DecidableEq, Inhabited

def PathFault.message : PathFault → String
  | .startMissing => "first step of a path must be Start"
  | .startRepeated => "Start may only appear as the first step"

namespace Path

/-- The steps of a path, each in its loose form. -/
def toSteps : Path → List LooseStep
  | .empty => []
  | .anchored start steps => .start start :: steps.map .later

/-- The steps that are no start, if all of them are such. -/
def laterSteps? : List LooseStep → Except PathFault (List Step)
  | [] => .ok []
  | .start _ :: _ => .error .startRepeated
  | .later step :: rest => (laterSteps? rest).map (step :: ·)

/-- Loose steps form a path if there are none, or if a start is first and nowhere else. -/
def ofSteps? : List LooseStep → Except PathFault Path
  | [] => .ok .empty
  | .start start :: rest => (laterSteps? rest).map (.anchored start)
  | .later _ :: _ => .error .startMissing

end Path

end PageHarvest
