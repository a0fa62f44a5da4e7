import PageHarvest.Proofs.Extract.Answers
import PageHarvest.Proofs.FieldMap
import PageHarvest.Proofs.Path.Tokens

/-! # What the place of populate steps means for the result

Gathering the populate steps of a path at its end leaves the listed values alone. The named values
are then all read from the element that the walk ends in, and none is read if a move misses before.
As long as no move comes after a populate step, reading in place gives the same.
-/

namespace PageHarvest

/-- Whether a step moves. -/
def isDescend : Step → Bool
  | .descend _ => true
  | .populate _ | .find _ => false

private theorem PathResult.ext_parts {one other : PathResult} (fields : one.fields = other.fields)
    (values : one.values = other.values) : one = other := by
  cases one
  cases other
  cases fields
  cases values
  rfl

namespace Path

/-- The steps after the start. -/
def laterSteps : Path → List Step
  | .empty => []
  | .anchored _ steps => steps

/-- The names that a path sets and what it reads for them, in the order of the steps. -/
def settings (path : Path) : List (String × FieldSpec) :=
  path.laterSteps.flatMap Step.settings

/-- No step moves once names have been set. -/
def MovesFirst (path : Path) : Prop :=
  path.laterSteps.Pairwise fun one other => isPopulate one = true → isDescend other = false

end Path

namespace Engine

variable {E : Type} (answer : String → E → List E) (read : Target → E → String)

/-- The element that the moves of the steps end in, unless one of them misses. -/
def deepest? : List Step → E → Option E
  | [], current => some current
  | .descend anchor :: rest, current =>
    (answer anchor.query current)[anchor.index]?.bind (deepest? rest)
  | .populate _ :: rest, current | .find _ :: rest, current => deepest? rest current

/-- The element that a path leads to, unless its start or one of its moves misses. -/
def reached? (path : Path) (document : E) : Option E :=
  match path with
  | .empty => none
  | .anchored start steps =>
    (answer start.query document)[start.index]?.bind (deepest? answer steps)

/-- The text that a field has in an element. -/
def textIn (root : E) (field : FieldSpec) : String :=
  ((answering answer read).populateField field root).run

/-- The texts that named fields have in an element. -/
def textsIn (root : E) (pairs : List (String × FieldSpec)) : List (String × String) :=
  pairs.map fun pair => (pair.1, textIn answer read root pair.2)

/-- What following steps gives when the answers are all there is to it. -/
def walked (steps : List Step) (current : E) (result : PathResult) : PathResult :=
  (answering answer read).walk steps current result

variable {answer read}

/-! ## Single steps -/

private theorem populateAll_answering (root : E) (pairs : List (String × FieldSpec))
    (fields : FieldMap String) :
    (answering answer read).populateAll root pairs fields =
      fields.setAll (textsIn answer read root pairs) := by
  induction pairs generalizing fields with
  | nil => rfl
  | cons pair rest ih => exact ih _

theorem walked_descend (anchor : Anchor) (rest : List Step) (current : E) (result : PathResult) :
    walked answer read (.descend anchor :: rest) current result =
      match (answer anchor.query current)[anchor.index]? with
      | some next => walked answer read rest next result
      | none => result := by
  rw [← @nth_answering E answer read]
  rfl

theorem walked_populate (fields : FieldMap FieldSpec) (rest : List Step) (current : E)
    (result : PathResult) :
    walked answer read (.populate fields :: rest) current result =
      walked answer read rest current
        ⟨result.fields.setAll (textsIn answer read current fields.entries), result.values⟩ := by
  rw [← populateAll_answering]
  rfl

theorem walked_find (field : FieldSpec) (rest : List Step) (current : E) (result : PathResult) :
    walked answer read (.find field :: rest) current result =
      walked answer read rest current
        ⟨result.fields, result.values ++ ((answering answer read).findValues field current).run⟩ :=
  rfl

/-- A step that sets no names stays in front when the populate steps are taken out. -/
private theorem filter_cons_append {step : Step} (plain : Path.isPopulate step = false)
    (rest last : List Step) :
    (step :: rest).filter (!Path.isPopulate ·) ++ last =
      step :: (rest.filter (!Path.isPopulate ·) ++ last) := by
  rw [List.filter_cons_of_pos (by rw [plain]; rfl), List.cons_append]

/-! ## Listed values -/

private theorem values_walked_populates {steps : List Step}
    (populates : ∀ step ∈ steps, Path.isPopulate step) (current : E) (result : PathResult) :
    (walked answer read steps current result).values = result.values := by
  induction steps generalizing result with
  | nil => rfl
  | cons step rest ih =>
    have here := populates step List.mem_cons_self
    have later := fun other member => populates other (List.mem_cons_of_mem _ member)
    cases step with
    | populate fields =>
      rw [walked_populate]
      exact ih later _
    | descend | find => cases here

/-- Populate steps may be taken out and put at the end without touching the listed values. -/
theorem values_walked_filter (steps : List Step) {last : List Step}
    (populates : ∀ step ∈ last, Path.isPopulate step) (current : E) {result other : PathResult}
    (same : other.values = result.values) :
    (walked answer read (steps.filter (!Path.isPopulate ·) ++ last) current other).values =
      (walked answer read steps current result).values := by
  induction steps generalizing current result other with
  | nil => exact (values_walked_populates populates current other).trans same
  | cons step rest ih =>
    cases step with
    | populate fields =>
      rw [walked_populate]
      exact ih current same
    | descend anchor =>
      rw [filter_cons_append rfl, walked_descend, walked_descend]
      cases (answer anchor.query current)[anchor.index]? with
      | none => exact same
      | some next => exact ih next same
    | find field =>
      rw [filter_cons_append rfl, walked_find, walked_find]
      apply ih current
      rw [same]

/-! ## Named values -/

private theorem deepest?_of_staying {steps : List Step}
    (staying : ∀ step ∈ steps, isDescend step = false)
    (current : E) : deepest? answer steps current = some current := by
  induction steps with
  | nil => rfl
  | cons step rest ih =>
    have here := staying step List.mem_cons_self
    have later := fun other member => staying other (List.mem_cons_of_mem _ member)
    cases step with
    | descend anchor => cases here
    | populate | find => exact ih later

/-- Populate steps do not move. -/
theorem deepest?_filter (steps : List Step) {last : List Step}
    (staying : ∀ step ∈ last, isDescend step = false) (current : E) :
    deepest? answer (steps.filter (!Path.isPopulate ·) ++ last) current =
      deepest? answer steps current := by
  induction steps generalizing current with
  | nil => exact deepest?_of_staying staying current
  | cons step rest ih =>
    cases step with
    | populate | find => exact ih current
    | descend anchor =>
      rw [filter_cons_append rfl, deepest?, deepest?, funext ih]

/-- If no step moves after a populate step, all names are read from where the walk ends. -/
theorem fields_walked {steps : List Step}
    (movesFirst : steps.Pairwise fun one other =>
      Path.isPopulate one = true → isDescend other = false)
    (current : E) (result : PathResult) :
    (walked answer read steps current result).fields =
      match deepest? answer steps current with
      | none => result.fields
      | some element =>
        result.fields.setAll (textsIn answer read element (steps.flatMap Step.settings)) := by
  induction steps generalizing current result with
  | nil => rfl
  | cons step rest ih =>
    obtain ⟨first, later⟩ := List.pairwise_cons.mp movesFirst
    cases step with
    | descend anchor =>
      rw [walked_descend, deepest?]
      cases (answer anchor.query current)[anchor.index]? with
      | none => rfl
      | some next => exact ih later next result
    | find field => exact ih later current _
    | populate fields =>
      have staying := fun other member => first other member rfl
      have stays := @deepest?_of_staying E answer rest staying current
      rw [walked_populate, ih later, deepest?, stays]
      simp only [textsIn, List.flatMap_cons, List.map_append, FieldMap.setAll_append]
      rfl

/-! ## Paths -/

variable (answer read) in
/-- What evaluating a path gives when the answers are all there is to it. -/
def outcome (path : Path) (document : E) : PathResult :=
  (answering answer read).evaluate path document

theorem outcome_anchored (start : Anchor) (steps : List Step) (document : E) :
    outcome answer read (.anchored start steps) document =
      match (answer start.query document)[start.index]? with
      | some element => walked answer read steps element {}
      | none => {} := by
  rw [← @nth_answering E answer read]
  rfl

private theorem fields_outcome {path : Path} (movesFirst : path.MovesFirst) (document : E) :
    (outcome answer read path document).fields = match reached? answer path document with
      | none => .empty
      | some element => .ofList (textsIn answer read element path.settings) := by
  cases path with
  | empty => rfl
  | anchored start steps =>
    rw [outcome_anchored, reached?]
    cases (answer start.query document)[start.index]? with
    | none => rfl
    | some element => exact fields_walked movesFirst element {}

end Engine

namespace Path

/-- The steps that gathering puts at the end. -/
private theorem gathered_last {settings : List (String × FieldSpec)} :
    ∀ step ∈ (if settings = [] then [] else [Step.populate (.ofList settings)]),
      isPopulate step = true ∧ isDescend step = false := by
  intro step member
  split at member
  · cases member
  · obtain rfl := List.mem_singleton.mp member
    exact ⟨rfl, rfl⟩

private theorem settings_gathered (path : Path) :
    path.gathered.settings = (FieldMap.ofList path.settings).entries := by
  cases path with
  | empty => rfl
  | anchored start steps =>
    have others : (steps.filter (!isPopulate ·)).flatMap Step.settings = [] := by
      rw [List.flatMap_eq_nil_iff]
      intro step kept
      cases step with
      | populate fields => exact absurd (List.mem_filter.mp kept).2 Bool.false_ne_true
      | descend | find => rfl
    simp only [settings, gathered, laterSteps, List.flatMap_append, others, List.nil_append]
    split
    · next nothing => rw [nothing]; rfl
    · exact List.flatMap_singleton _ _

/-- Gathered populate steps come after all moves. -/
theorem movesFirst_gathered (path : Path) : path.gathered.MovesFirst := by
  cases path with
  | empty => exact .nil
  | anchored start steps =>
    have last := @gathered_last (steps.flatMap Step.settings)
    have plain (one : Step) (kept : one ∈ steps.filter (!isPopulate ·)) (other : Step) :
        isPopulate one = true → isDescend other = false := by
      intro populates
      have same := (List.mem_filter.mp kept).2
      rw [populates] at same
      cases same
    refine List.pairwise_append.mpr ⟨?_, ?_, ?_⟩
    · apply List.pairwise_of_forall_mem_list
      intro one kept other _
      exact plain one kept other
    · apply List.pairwise_of_forall_mem_list
      intro one _ other member _
      exact (last other member).2
    · intro one kept other _
      exact plain one kept other

private theorem query_mem_selectors {path : Path} {entry : String × FieldSpec}
    (set : entry ∈ path.settings) : entry.2.destination.query ∈ path.selectors := by
  cases path with
  | empty => cases set
  | anchored start steps =>
    obtain ⟨step, among, sets⟩ := List.mem_flatMap.mp set
    cases step with
    | populate fields =>
      apply List.mem_cons_of_mem
      exact List.mem_flatMap.mpr ⟨_, among, List.mem_map_of_mem sets⟩
    | descend | find => cases sets

private theorem selectors_gathered {path : Path} {selector : String}
    (member : selector ∈ path.gathered.selectors) : selector ∈ path.selectors := by
  cases path with
  | empty => exact member
  | anchored start steps =>
    rw [gathered, selectors, List.flatMap_append] at member
    rcases List.mem_cons.mp member with rfl | later
    · exact List.mem_cons_self
    · rcases List.mem_append.mp later with kept | merged
      · obtain ⟨step, among, asks⟩ := List.mem_flatMap.mp kept
        apply List.mem_cons_of_mem
        exact List.mem_flatMap.mpr ⟨step, List.mem_of_mem_filter among, asks⟩
      · split at merged
        · cases merged
        · rw [List.flatMap_singleton] at merged
          obtain ⟨entry, set, rfl⟩ := List.mem_map.mp merged
          exact query_mem_selectors (FieldMap.mem_of_mem_ofList set)

end Path

namespace Engine

variable {ε E : Type} {answer : String → E → List E} {read : Target → E → String}

private theorem reached?_gathered (path : Path) (document : E) :
    reached? answer path.gathered document = reached? answer path document := by
  cases path with
  | empty => rfl
  | anchored start steps =>
    have staying := fun step member =>
      (@Path.gathered_last (steps.flatMap Step.settings) step member).2
    rw [Path.gathered, reached?, reached?, funext (deepest?_filter steps staying)]

private theorem values_outcome_gathered (path : Path) (document : E) :
    (outcome answer read path.gathered document).values =
      (outcome answer read path document).values := by
  cases path with
  | empty => rfl
  | anchored start steps =>
    have populates := fun step member =>
      (@Path.gathered_last (steps.flatMap Step.settings) step member).1
    rw [Path.gathered, outcome_anchored, outcome_anchored]
    cases (answer start.query document)[start.index]? with
    | none => rfl
    | some element => exact values_walked_filter steps populates element rfl

/-- Texts that are set anew are those of the fields that are kept. -/
theorem ofList_textsIn (root : E) (pairs : List (String × FieldSpec)) :
    FieldMap.ofList (textsIn answer read root pairs) =
      (FieldMap.ofList pairs).mapValues (textIn answer read root) :=
  (FieldMap.mapValues_ofList _ pairs).symm

private theorem ofList_textsIn_entries (root : E) (pairs : List (String × FieldSpec)) :
    FieldMap.ofList (textsIn answer read root (FieldMap.ofList pairs).entries) =
      .ofList (textsIn answer read root pairs) := by
  rw [ofList_textsIn, FieldMap.ofList_entries, ofList_textsIn]

/-- Gathered, all names are read from where the path leads. -/
theorem fields_outcome_gathered (path : Path) (document : E) :
    (outcome answer read path.gathered document).fields =
      match reached? answer path document with
      | none => .empty
      | some element => .ofList (textsIn answer read element path.settings) := by
  rw [fields_outcome path.movesFirst_gathered, reached?_gathered, path.settings_gathered]
  cases reached? answer path document with
  | none => rfl
  | some element => exact ofList_textsIn_entries element path.settings

/-- What holds between the results of a path with its populate steps carried out at the end and in
place. The listed values are the same. At the end all names are read from the element that the path
leads to, in the order in which they first appear and each with the field that was given last for
it, and none if the start or a move misses. If no move comes after a populate step, both results are
the same. -/
structure Placings (engine : Engine (Logged ε) E) (answer : String → E → List E) (path : Path)
    (document : E) (atEnd inPlace : PathResult) : Prop where
  values : atEnd.values = inPlace.values
  missed : reached? answer path document = none → atEnd.fields = .empty
  names : ∀ element, reached? answer path document = some element →
    atEnd.fields.names = (path.settings.map Prod.fst).eraseDups
  texts : ∀ element, reached? answer path document = some element →
    ∀ name field, path.settings.reverse.lookup name = some field →
      ∃ value, (engine.populateField field element).Gives value ∧
        atEnd.fields.get? name = some value
  same : path.MovesFirst → atEnd = inPlace

/-- Both placings of a path ask the same and give what the answers determine. -/
private theorem placings_outcome {engine : Engine (Logged ε) E} (notices : engine.Notices)
    {path : Path}
    (answers : ∀ selector ∈ path.selectors, engine.Answers answer selector) (document : E) :
    Placings engine answer path document (outcome answer engine.read path.gathered document)
      (outcome answer engine.read path document) := by
  have values := @values_outcome_gathered E answer engine.read path document
  have fields := @fields_outcome_gathered E answer engine.read path document
  constructor
  · exact values
  · intro misses
    rw [fields, misses]
  · intro element reached
    rw [fields, reached]
    simp only [ofList_textsIn, FieldMap.names_mapValues, FieldMap.names_ofList]
  · intro element reached name field last
    have asked := Path.query_mem_selectors (List.mem_reverse.mp (mem_of_lookup last))
    have settles := settles_populateField notices (answers _ asked).meets element
    refine ⟨textIn answer engine.read element field, settles.gives, ?_⟩
    rw [fields, reached]
    simp only [ofList_textsIn, FieldMap.get?_mapValues, FieldMap.get?_ofList, last]
    rfl
  · intro movesFirst
    rw [← fields_outcome movesFirst] at fields
    exact PathResult.ext_parts fields values

/-- The two ways of placing the populate steps of a text agree in meaning, whatever the text and the
document, as long as the engine answers the selectors of the text. -/
theorem evaluate_placings (engine : Engine (Logged ε) E) (answer : String → E → List E)
    (notices : engine.Notices) (text : String)
    (answers : ∀ selector ∈ (Path.compile text .inPlace).1.selectors,
      engine.Answers answer selector)
    (document : E) :
    ∃ atEnd inPlace : PathResult,
      (engine.evaluate (Path.compile text .atEnd).1 document).Gives atEnd ∧
      (engine.evaluate (Path.compile text .inPlace).1 document).Gives inPlace ∧
      Placings engine answer (Path.compile text .inPlace).1 document atEnd inPlace := by
  rw [Path.compile_atEnd]
  have answersGathered : ∀ selector ∈ (Path.compile text .inPlace).1.gathered.selectors,
      engine.Answers answer selector :=
    fun selector member => answers selector (Path.selectors_gathered member)
  exact ⟨_, _, gives_evaluate notices answersGathered document,
    gives_evaluate notices answers document, placings_outcome notices answers document⟩

/-- A name that is set before a move and again after it. -/
theorem evaluate_placings_list :
    let text := "START(SELECTOR: ul) -> POPULATE(NAME: word, SELECTOR: b, LOC: TEXT) -> " ++
      "DESCEND(SELECTOR: li) -> POPULATE(NAME: word, SELECTOR: i, LOC: TEXT)"
    let document := Document.parse "<ul><li><b>one</b><i>two</i></li></ul>"
    Document.Place.engine.Notices ∧
      (∀ selector ∈ (Path.compile text .inPlace).1.selectors,
        Document.Place.engine.Answers Document.Place.found selector) ∧
      ∃ atEnd inPlace : PathResult,
        (Document.Place.engine.evaluate (Path.compile text .atEnd).1 document).Gives atEnd ∧
        (Document.Place.engine.evaluate (Path.compile text .inPlace).1 document).Gives inPlace ∧
        Placings Document.Place.engine Document.Place.found (Path.compile text .inPlace).1 document
          atEnd inPlace := by
  intro text document
  have notices := Document.Place.engine_notices
  have selectors : (Path.compile text .inPlace).1.selectors = ["ul", "b", "li", "i"] := by
    decide +kernel
  have parsed : ∀ selector ∈ ["ul", "b", "li", "i"], (Selector.parse selector).isOk = true := by
    decide +kernel
  have answers : ∀ selector ∈ (Path.compile text .inPlace).1.selectors,
      Document.Place.engine.Answers Document.Place.found selector := by
    intro selector member
    rw [selectors] at member
    exact Document.Place.engine_answers_of_isOk (parsed selector member)
  exact ⟨notices, answers, evaluate_placings _ _ notices text answers document⟩

end Engine

end PageHarvest
