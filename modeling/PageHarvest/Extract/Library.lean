import PageHarvest.Extract.Record
import PageHarvest.Logged
import PageHarvest.Text.Quoted

/-! # Libraries for documents

Documents are read by a library: it makes them from source, selects elements inside an element and
reads texts off an element. Whatever the library, a selector that it refuses for its form matches
nothing and leaves a warning in the journal, and a miss leaves a note; only what the library itself
breaks off at ends the work.
-/

namespace PageHarvest

open Journal

/-- What selecting comes to. -/
inductive Selected (ε E : Type) where
  /-- The elements that match, in document order. -/
  | found (elements : List E)
  /-- The selector is of bad form, as a report says. -/
  | refused (report : String)
  | broken (fault : ε)

/-- A library for documents whose elements, and the documents themselves, are of type `E`. -/
structure Library (ε E : Type) where
  parse : String → E
  /-- Selects elements strictly inside an element. -/
  select : String → E → Selected ε E
  read : Target → E → String

namespace Library

variable {ε E : Type}

/-- The elements inside an element that a selector text matches. -/
def query (library : Library ε E) (selector : String) (root : E) : Logged ε (List E) :=
  match library.select selector root with
  | .found elements => return elements
  | .refused report => do
    Logged.note ⟨.query, .warning, s!"Invalid selector {Text.quoted selector}: {report}"⟩
    return []
  | .broken fault => throw fault

def engine (library : Library ε E) : Engine (Logged ε) E where
  query := library.query
  read := library.read
  missed selector index found := Logged.note
    ⟨.evaluator, .debug, s!"No match #{index} for {Text.quoted selector} ({found} found)"⟩

def harvest (library : Library ε E) (spec : SearchSpec) (url : Option String) (html : String) :
    Logged ε Record :=
  library.engine.populate spec url (library.parse html)

end Library

end PageHarvest
