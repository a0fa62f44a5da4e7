import PageHarvest.Extract.Record
import PageHarvest.Path.Field

/-! # Search specifications from texts

A specification is compiled from named field texts and from path texts. A text that compiles to
nothing is left out; every diagnostic is kept, those of the fields first.
-/

namespace PageHarvest

/-- The field of a named text, if it compiles, and what is wrong with it otherwise. -/
def compileNamed (entry : String × String) : Option (String × FieldSpec) × List Diagnostic :=
  match Path.compileField entry.2 with
  | .ok field => (some (entry.1, field), [])
  | .error diagnostic => (none, [diagnostic])

/-- The path of a text, if it has any step, and all that is wrong with it. -/
def compileKept (text : String) : Option Path × List Diagnostic :=
  let (path, diagnostics) := Path.compile text
  (if path.isEmpty then none else some path, diagnostics)

/-- The specification of field texts and path texts, with all diagnostics. -/
def SearchSpec.compile (paths : List String) (fields : FieldMap String) :
    SearchSpec × List Diagnostic :=
  let named := fields.entries.map compileNamed
  let kept := paths.map compileKept
  (⟨.ofList (named.filterMap (·.1)), kept.filterMap (·.1)⟩,
    named.flatMap (·.2) ++ kept.flatMap (·.2))

def compileJournal (text : String) : List Journal.Entry :=
  Path.compileEntries text (Path.compile text).2

end PageHarvest
