import PageHarvest.Extract.Compile
import PageHarvest.Proofs.Extract.Placing

/-! # Pages with selectors that are refused

A selector that the library refuses for its form is answered by a miss, so that nothing but what the
library breaks off at keeps a record from being given.
-/

namespace PageHarvest

namespace Engine

variable {ε E : Type}

/-- What is asked while a document is read. -/
def askedFor (answer : String → E → List E) (spec : SearchSpec) (document : E) :
    List (String × E) :=
  spec.fields.entries.map (fun entry => (entry.2.destination.query, document)) ++
    spec.paths.flatMap fun path => askedBy answer path document

section

variable {engine : Engine (Logged ε) E} {answer : String → E → List E}
  {fault? : String → E → Option ε} (notices : engine.Notices)
  (meets : ∀ selector, engine.Meets answer selector (fault? selector))

include notices meets

private theorem settles_addPaths (document : E) (paths : List Path) (record : Record) :
    (engine.addPaths document paths record).Settles
      (firstFault fault? (paths.flatMap (askedBy answer · document)))
      ((answering answer engine.read).addPaths document paths record) := by
  induction paths generalizing record with
  | nil => exact Logged.settles_pure record
  | cons path rest ih =>
    have evaluates : (engine.evaluate path document).Settles
        (firstFault fault? (askedBy answer path document))
        ((answering answer engine.read).evaluate path document) :=
      settles_evaluate notices (fun selector _ => meets selector) document
    rw [List.flatMap_cons, firstFault_append]
    exact evaluates.bind (fun _ => firstFault fault? (rest.flatMap (askedBy answer · document)))
      fun _ => ih _

/-- Reading a document meets the first fault among what is asked, and without one it gives what the
answers determine. -/
theorem settles_populate (spec : SearchSpec) (url : Option String) (document : E) :
    (engine.populate spec url document).Settles
      (firstFault fault? (askedFor answer spec document))
      ((answering answer engine.read).populate spec url document) := by
  have populates := settles_populateAll notices
    (fun pair (_ : pair ∈ spec.fields.entries) => meets pair.2.destination.query) document .empty
  rw [askedFor, firstFault_append]
  exact populates.bind
    (fun _ => firstFault fault? (spec.paths.flatMap (askedBy answer · document)))
    fun _ => settles_addPaths notices meets document spec.paths _

end

/-! ## Misses -/

variable {answer : String → E → List E} {read : Target → E → String}

private theorem textIn_of_nothing {selector : String} {root : E}
    (nothing : answer selector root = [])
    (selection : Selection) (target : Target) :
    textIn answer read root ⟨⟨selector, selection⟩, target⟩ = "" := by
  cases selection with
  | all delimiter =>
    change delimiter.intercalate ((answer selector root).map (read target)) = ""
    rw [nothing]
    rfl
  | single index =>
    change (match (answering answer read).nth selector index root with
      | some element => read target element
      | none => "") = ""
    rw [nth_answering, nothing]
    rfl

private theorem findValues_of_nothing {selector : String} {root : E}
    (nothing : answer selector root = [])
    (selection : Selection) (target : Target) :
    ((answering answer read).findValues ⟨⟨selector, selection⟩, target⟩ root).run = [] := by
  cases selection with
  | all delimiter =>
    change (answer selector root).map (read target) = []
    rw [nothing]
    rfl
  | single index =>
    change (match (answering answer read).nth selector index root with
      | some element => [read target element]
      | none => []) = []
    rw [nth_answering, nothing]
    rfl

private theorem walked_of_nothing {selector : String} {root : E}
    (nothing : answer selector root = [])
    (index : Nat) (rest : List Step) (result : PathResult) :
    walked answer read (.descend ⟨selector, index⟩ :: rest) root result = result := by
  rw [walked_descend, nothing]
  rfl

private theorem outcome_of_nothing {selector : String} {document : E}
    (nothing : answer selector document = []) (index : Nat) (steps : List Step) :
    outcome answer read (.anchored ⟨selector, index⟩ steps) document = {} := by
  rw [outcome_anchored, nothing]
  rfl

end Engine

namespace Library

open Engine

variable {ε E : Type} (library : Library ε E)

private theorem found_of_not_found {selector : String} {root : E}
    (refused : ∀ elements, library.select selector root ≠ .found elements) :
    library.found selector root = [] := by
  rw [found]
  cases selected : library.select selector root with
  | found elements => exact absurd selected (refused elements)
  | refused report => rfl
  | broken fault => rfl

/-- Whatever library reads the documents, compiling texts and reading a page gives a record unless
the library breaks off at a selector that is asked; the first such ends the work. A selector that is
refused where it is asked, in one way or the other, counts as a miss there wherever it does not end
the work. -/
theorem harvest_compiled (paths : List String) (fields : FieldMap String) (url : Option String)
    (html : String) :
    let spec := (SearchSpec.compile paths fields).1
    let document := library.parse html
    (library.harvest spec url html).outcome.1 = Logged.settle
        (firstFault library.fault? (askedFor library.found spec document))
        ((answering library.found library.read).populate spec url document).run ∧
      ∀ selector root, (∀ elements, library.select selector root ≠ .found elements) →
        (∀ selection target,
          textIn library.found library.read root ⟨⟨selector, selection⟩, target⟩ = "") ∧
        (∀ selection target, ((answering library.found library.read).findValues
          ⟨⟨selector, selection⟩, target⟩ root).run = []) ∧
        (∀ index rest result,
          walked library.found library.read (.descend ⟨selector, index⟩ :: rest) root result =
            result) ∧
        ∀ index steps,
          outcome library.found library.read (.anchored ⟨selector, index⟩ steps) root = {} := by
  intro spec document
  constructor
  · exact (settles_populate library.engine_notices library.engine_meets spec url document).outcome
  · intro selector root refused
    have nothing := library.found_of_not_found refused
    exact ⟨textIn_of_nothing nothing, findValues_of_nothing nothing, walked_of_nothing nothing,
      outcome_of_nothing nothing⟩

end Library

open Document Engine

/-- A selector of bad form leaves its field empty and the other fields as they are. -/
theorem harvest_badForm :
    let fields : FieldMap String := .ofList
      [("broken", "SELECTOR: p[, LOC: TEXT"), ("sound", "SELECTOR: p, LOC: TEXT")]
    let html := "<html><head></head><body><p>x</p></body></html>"
    (∀ elements, Place.library.select "p[" (Document.parse html) ≠ .found elements) ∧
      (harvest (SearchSpec.compile [] fields).1 none html).outcome.1 =
        .ok { fields := .ofList [("broken", ""), ("sound", "x")] } ∧
      textIn Place.library.found Place.read (Document.parse html) ⟨⟨"p[", .single 0⟩, .text⟩ =
        "" := by
  intro fields html
  have refused (elements : List Place) :
      Place.library.select "p[" (Document.parse html) ≠ .found elements := by
    have form : Selector.parse "p[" = .error (.form .badAttribute 1) := by rfl
    rw [Place.library_select, Place.select, form]
    exact fun same => by cases same
  obtain ⟨harvested, misses⟩ := Place.library.harvest_compiled [] fields none html
  refine ⟨refused, harvested.trans ?_, (misses "p[" _ refused).1 (.single 0) .text⟩
  decide +kernel

/-- A pseudo-element in a field's selector ends the work, and no record is given. -/
theorem harvest_pseudoElement :
    let fields : FieldMap String := .ofList [("a", "SELECTOR: p::before, LOC: TEXT")]
    (harvest (SearchSpec.compile [] fields).1 (some "https://x.test/u")
      "<html><head></head><body><p>x</p></body></html>").outcome.1 =
        .error (.pseudoElement 1) := by
  decide +kernel

end PageHarvest
