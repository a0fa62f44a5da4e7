/-! # Selectors

A selector is a list of alternatives, each a list of tests that an element has to pass together. A
combinator is a test as well: it asks for a relative of the element, found by a hop through the
tree, that passes further tests.
-/

namespace PageHarvest.Selector

/-- Where the relatives of an element are looked for. -/
inductive Hop where
  | ancestor | parent | earlierSibling | previousSibling
  | descendant | child | laterSibling | nextSibling
  deriving DecidableEq, Inhabited

/-- How an attribute value is compared with a text. -/
inductive Comparison where
  | equal | word | dashWord | start | finish | anywhere
  deriving DecidableEq, Inhabited

/-- What an attribute value must be like. -/
structure ValueTest where
  comparison : Comparison
  value : List Char
  ignoreCase : Bool := false
  deriving DecidableEq, Inhabited

/-- The positions `step * k + offset` for `k = 0, 1, …`, or the single position `offset`. -/
structure Positions where
  step : Int
  offset : Int
  repeats : Bool
  deriving DecidableEq, Inhabited

/-- A condition on an element. -/
inductive Test where
  /-- Holds of no element. -/
  | never
  /-- The element name, in lower case. -/
  | name (name : String)
  | id (value : String)
  | classWord (word : String)
  /-- An attribute, in lower case, and what its value must be like. -/
  | attr (name : String) (value : Option ValueTest)
  /-- The outermost element, with nothing beside it. -/
  | root
  /-- The element that the search started from. -/
  | scope
  /-- Neither elements nor text inside. -/
  | hollow
  /-- No element that a page may define for itself. -/
  | plain
  /-- The first button that submits the form around it. -/
  | submits
  /-- No radio button of the same name in the same form is checked. -/
  | unchosen
  /-- The value of an input lies outside its limits, or within. -/
  | range (outside : Bool)
  /-- Texts that occur in the element, in groups of which each must have a member that occurs; a
  group may ask for the texts directly inside only. -/
  | contains (groups : List (Bool × List (List Char)))
  /-- Ranges of languages, one of which must hold the element's own language. -/
  | language (ranges : List (List Char))
  /-- The place among the siblings that pass `among`, from the end if asked, and only among those
  of the same name if asked. -/
  | position (positions : Positions) (sameName fromEnd : Bool) (among : List (List Test))
  /-- Some alternative holds. -/
  | any (alternatives : List (List Test))
  /-- No alternative holds. -/
  | none (alternatives : List (List Test))
  /-- Some relative passes the tests. -/
  | related (hop : Hop) (tests : List Test)
  deriving Inhabited

abbrev Alternatives := List (List Test)

end PageHarvest.Selector
