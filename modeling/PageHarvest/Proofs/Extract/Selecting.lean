import PageHarvest.Extract.Page
import PageHarvest.Proofs.Extract.Answers
import PageHarvest.Proofs.Text.Pieces

/-! # One match or all of them

A field takes one of the matches of its selector or all of them. Finding lists what is read from the
matches that are taken, and populating joins what finding lists. So a single match has the value
that stands at its place among all values, and a delimiter that none of the values holds parts them
again where it has joined them.
-/

namespace PageHarvest

namespace Selection

/-- Those of the matches that are taken. -/
def taken {E : Type} (selection : Selection) (found : List E) : List E :=
  match selection with
  | .single index => found[index]?.toList
  | .all _ => found

/-- What values are joined with; a single one stands by itself. -/
def delimiter : Selection → String
  | .single _ => ""
  | .all delimiter => delimiter

private theorem taken_map {E F : Type} (selection : Selection) (read : E → F) (found : List E) :
    selection.taken (found.map read) = (selection.taken found).map read := by
  cases selection with
  | single index =>
    simp only [taken, List.getElem?_map]
    cases found[index]? <;> rfl
  | all delimiter => rfl

theorem mem_of_mem_taken {E : Type} {selection : Selection} {found : List E} {element : E}
    (member : element ∈ selection.taken found) : element ∈ found := by
  cases selection with
  | single index => exact List.mem_of_getElem? (Option.mem_toList.mp member)
  | all delimiter => exact member

end Selection

namespace Engine

variable {E : Type} (answer : String → E → List E) (read : Target → E → String)

/-- The elements that a field is read from. -/
def sources (field : FieldSpec) (root : E) : List E :=
  field.destination.selection.taken (answer field.destination.query root)

/-- The values of all matches of a selector. -/
def valuesOf (selector : String) (target : Target) (root : E) : List String :=
  (answer selector root).map (read target)

variable {answer read}

/-- Finding lists what is read from the elements that are taken. -/
theorem findValues_answering (field : FieldSpec) (root : E) :
    (answering answer read).findValues field root =
      (sources answer field root).map (read field.target) := by
  obtain ⟨⟨query, selection⟩, target⟩ := field
  cases selection with
  | all delimiter => rfl
  | single index =>
    change (match (answering answer read).nth query index root with
      | some element => [read target element]
      | none => []) = _
    rw [nth_answering]
    simp only [sources, Selection.taken]
    cases (answer query root)[index]? <;> rfl

/-- Populating joins what finding lists. -/
theorem populateField_answering (field : FieldSpec) (root : E) :
    (answering answer read).populateField field root =
      field.destination.selection.delimiter.intercalate
        ((sources answer field root).map (read field.target)) := by
  obtain ⟨⟨query, selection⟩, target⟩ := field
  cases selection with
  | all delimiter => rfl
  | single index =>
    change (match (answering answer read).nth query index root with
      | some element => read target element
      | none => "") = _
    rw [nth_answering]
    simp only [sources, Selection.taken]
    cases (answer query root)[index]? with
    | none => rfl
    | some element => exact String.intercalate_singleton.symm

private theorem sources_map_read (selector : String) (selection : Selection) (target : Target)
    (root : E) :
    (sources answer ⟨⟨selector, selection⟩, target⟩ root).map (read target) =
      selection.taken (valuesOf answer read selector target root) :=
  (selection.taken_map (read target) _).symm

/-! ## Whole fields -/

section

variable {ε : Type} {engine : Engine (Logged ε) E} (notices : engine.Notices)

include notices

private theorem gives_findValues {field : FieldSpec}
    (answers : engine.Answers answer field.destination.query) (root : E) :
    (engine.findValues field root).Gives
      ((sources answer field root).map (engine.read field.target)) := by
  rw [← findValues_answering]
  exact (settles_findValues notices answers.meets root).gives

private theorem gives_populateField {field : FieldSpec}
    (answers : engine.Answers answer field.destination.query) (root : E) :
    (engine.populateField field root).Gives
      (field.destination.selection.delimiter.intercalate
        ((sources answer field root).map (engine.read field.target))) := by
  rw [← populateField_answering]
  exact (settles_populateField notices answers.meets root).gives

end

end Engine

/-- A character that no value holds parts the values that it has joined. -/
theorem Text.split_intercalate {c : Char} {values : List String} (given : values ≠ [])
    (absent : ∀ value ∈ values, c ∉ value.toList) :
    Text.split (String.singleton c) ((String.singleton c).intercalate values) = values := by
  obtain ⟨value, rest, rfl⟩ := List.exists_cons_of_ne_nil given
  have apart : ∀ other ∈ (value :: rest).map String.toList, c ∉ other := by
    intro other member
    obtain ⟨text, among, rfl⟩ := List.mem_map.mp member
    exact absent text among
  have parted := splitAt_intercalate_char value.toList (rest.map String.toList) apart
  rw [split, String.toList_intercalate, String.toList_singleton, List.map_cons, parted,
    ← List.map_cons, List.map_map]
  exact List.map_id'' (fun text => String.ofList_toList) _

namespace Engine

variable {ε E : Type}

/-- How the ways of taking the matches of a selector agree, when `values` are the values of all of
them: finding lists them all or the one at an index, and populating gives the one or joins them all.
A delimiter of one character that no value holds parts the joined text into the values again. -/
structure SelectionsAgree (engine : Engine (Logged ε) E) (selector : String) (target : Target)
    (root : E) (values : List String) : Prop where
  findAll : ∀ delimiter,
    (engine.findValues ⟨⟨selector, .all delimiter⟩, target⟩ root).Gives values
  findSingle : ∀ index,
    (engine.findValues ⟨⟨selector, .single index⟩, target⟩ root).Gives values[index]?.toList
  populateSingle : ∀ index,
    (engine.populateField ⟨⟨selector, .single index⟩, target⟩ root).Gives (values[index]?.getD "")
  populateAll : ∀ delimiter,
    (engine.populateField ⟨⟨selector, .all delimiter⟩, target⟩ root).Gives
      (delimiter.intercalate values)
  populateNone : values = [] → ∀ delimiter,
    (engine.populateField ⟨⟨selector, .all delimiter⟩, target⟩ root).Gives ""
  parted : values ≠ [] → ∀ c, (∀ value ∈ values, c ∉ value.toList) →
    ∃ text, (engine.populateField ⟨⟨selector, .all (String.singleton c)⟩, target⟩ root).Gives text ∧
      Text.split (String.singleton c) text = values

/-- Taking one match or all of them, to list or to populate, tells of the same values, whatever the
selector, the target and the element, as long as the engine answers the selector. -/
theorem selections_agree {engine : Engine (Logged ε) E} {answer : String → E → List E}
    (notices : engine.Notices) {selector : String} (answers : engine.Answers answer selector)
    (target : Target) (root : E) :
    SelectionsAgree engine selector target root
      (valuesOf answer engine.read selector target root) := by
  have finds (selection : Selection) :
      (engine.findValues ⟨⟨selector, selection⟩, target⟩ root).Gives
        (selection.taken (valuesOf answer engine.read selector target root)) := by
    rw [← sources_map_read]
    exact gives_findValues notices answers root
  have populates (selection : Selection) :
      (engine.populateField ⟨⟨selector, selection⟩, target⟩ root).Gives
        (selection.delimiter.intercalate
          (selection.taken (valuesOf answer engine.read selector target root))) := by
    rw [← sources_map_read]
    exact gives_populateField notices answers root
  generalize valuesOf answer engine.read selector target root = values at finds populates ⊢
  constructor
  · intro delimiter
    exact finds (.all delimiter)
  · intro index
    exact finds (.single index)
  · intro index
    have gives := populates (.single index)
    have alone : (Selection.single index).delimiter.intercalate
        ((Selection.single index).taken values) = values[index]?.getD "" := by
      rw [Selection.taken]
      cases values[index]? with
      | none => exact String.intercalate_nil
      | some value => exact String.intercalate_singleton
    rwa [alone] at gives
  · intro delimiter
    exact populates (.all delimiter)
  · rintro rfl delimiter
    have gives := populates (.all delimiter)
    have nothing : delimiter.intercalate [] = "" := String.intercalate_nil
    exact nothing ▸ gives
  · intro given c absent
    exact ⟨_, populates (.all (String.singleton c)), Text.split_intercalate given absent⟩

/-- Three items, the second of them without text. -/
theorem selections_agree_items :
    let document := Document.parse "<ul><li>one</li><li></li><li>two</li></ul>"
    Document.Place.engine.Notices ∧
      Document.Place.engine.Answers Document.Place.found "li" ∧
      SelectionsAgree Document.Place.engine "li" .text document ["one", "", "two"] := by
  intro document
  have notices := Document.Place.engine_notices
  have answers : Document.Place.engine.Answers Document.Place.found "li" :=
    Document.Place.engine_answers_of_isOk (by decide +kernel)
  have values : valuesOf Document.Place.found Document.Place.engine.read "li" .text document =
      ["one", "", "two"] := by
    decide +kernel
  have agree := selections_agree notices answers .text document
  rw [values] at agree
  exact ⟨notices, answers, agree⟩

end Engine

end PageHarvest
