import PageHarvest.Document.Tree
import PageHarvest.Extract.Library
import PageHarvest.Selector.Matching
import PageHarvest.Selector.Parser

/-! # Harvesting pages

The library for documents that is at hand: selectors are read here, and matched against the places
of a document.
-/

namespace PageHarvest

open Document

namespace Document.Place

/-- Selects the elements inside a place that a selector text matches. -/
def select (selector : String) (root : Place) : Selected Selector.Unsupported Place :=
  match Selector.parse selector with
  | .ok alternatives => .found (Selector.select alternatives root)
  | .error (.form fault position) => .refused (fault.report (Selector.readable selector) position)
  | .error (.unsupported what) => .broken what

/-- The value of an attribute; one that holds several words has them joined by single spaces. -/
def read (target : Target) (element : Place) : String :=
  match target with
  | .text => element.text
  | .attribute name => (element.attribute? name).getD ""
  | .id | .classes => ""

def library : Library Selector.Unsupported Place where
  parse := Document.parse
  select := select
  read := read

def engine : Engine (Logged Selector.Unsupported) Place := library.engine

end Document.Place

def harvest (spec : SearchSpec) (url : Option String) (html : String) :
    Logged Selector.Unsupported Record :=
  Place.library.harvest spec url html

end PageHarvest
