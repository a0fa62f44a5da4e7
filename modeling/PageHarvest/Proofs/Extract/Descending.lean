import PageHarvest.Proofs.Document.Descent
import PageHarvest.Proofs.Extract.Extending
import PageHarvest.Proofs.Extract.Selecting

/-! # A path reads below where it stands

The start of a path and every move that finds something lead further down in the document, and what
is read is always found inside the element where the path stands at that moment. There are only so
many levels below the start, so a path with more moves than that misses one of them, and what stands
behind it adds nothing.
-/

namespace PageHarvest

/-- The steps of a path, its start being a move from the whole document. -/
def Path.asSteps : Path → List Step
  | .empty => []
  | .anchored start steps => .descend start :: steps

namespace Engine

section

variable {E : Type} (answer : String → E → List E)

/-- The elements that the moves of steps lead to, one after the other. -/
def stations : List Step → E → List E
  | [], _ => []
  | .descend anchor :: rest, current =>
    match (answer anchor.query current)[anchor.index]? with
    | some next => next :: stations rest next
    | none => []
  | .populate _ :: rest, current | .find _ :: rest, current => stations rest current

/-- The elements that fields are read from, each behind the element where the path stands. -/
def readingsAt (fields : List FieldSpec) (current : E) : List (E × E) :=
  (fields.flatMap (sources answer · current)).map (current, ·)

/-- The elements that steps read, each behind the element where the path stands by then. -/
def readings : List Step → E → List (E × E)
  | [], _ => []
  | .descend anchor :: rest, current =>
    match (answer anchor.query current)[anchor.index]? with
    | some next => readings rest next
    | none => []
  | .populate fields :: rest, current =>
    readingsAt answer (fields.entries.map Prod.snd) current ++ readings rest current
  | .find field :: rest, current => readingsAt answer [field] current ++ readings rest current

end

section

variable {E : Type} {answer answer' : String → E → List E} {read read' : Target → E → String}

/-! ## Nothing else is asked and read -/

/-- The values of a field depend on nothing but the answers at the element and what is read from
those that are taken. -/
theorem values_congr {fields : List FieldSpec} {current : E}
    (asked : ∀ selector, answer' selector current = answer selector current)
    (same : ∀ reading ∈ readingsAt answer fields current, ∀ target,
      read' target reading.2 = read target reading.2)
    {field : FieldSpec} (member : field ∈ fields) :
    (sources answer' field current).map (read' field.target) =
      (sources answer field current).map (read field.target) := by
  have sourcesSame : sources answer' field current = sources answer field current := by
    rw [sources, sources, asked]
  rw [sourcesSame]
  apply List.map_congr_left
  intro source among
  refine same (current, source) (List.mem_map_of_mem ?_) field.target
  exact List.mem_flatMap.mpr ⟨field, member, among⟩

/-- What steps give depends on nothing but the answers where the path stands and what is read from
the elements that the steps read. -/
theorem walked_congr {steps : List Step} {current : E}
    (asked : ∀ element ∈ current :: stations answer steps current, ∀ selector,
      answer' selector element = answer selector element)
    (same : ∀ reading ∈ readings answer steps current, ∀ target,
      read' target reading.2 = read target reading.2) (result : PathResult) :
    walked answer' read' steps current result = walked answer read steps current result := by
  induction steps generalizing current result with
  | nil => rfl
  | cons step rest ih =>
    have here := asked current List.mem_cons_self
    cases step with
    | descend anchor =>
      rw [stations] at asked
      rw [readings] at same
      rw [walked_descend, walked_descend, here]
      cases found : (answer anchor.query current)[anchor.index]? with
      | none => rfl
      | some next =>
        rw [found] at asked same
        exact ih (List.forall_mem_cons.mp asked).2 same result
    | populate fields =>
      rw [readings, List.forall_mem_append] at same
      have texts : textsIn answer' read' current fields.entries =
          textsIn answer read current fields.entries := by
        apply List.map_congr_left
        intro entry member
        rw [textIn, textIn, populateField_answering, populateField_answering,
          values_congr here same.1 (List.mem_map_of_mem member)]
      rw [walked_populate, walked_populate, texts]
      exact ih asked same.2 _
    | find field =>
      rw [readings, List.forall_mem_append] at same
      rw [walked_find, walked_find, findValues_answering, findValues_answering,
        values_congr here same.1 (List.mem_singleton_self field)]
      exact ih asked same.2 _

private theorem outcome_eq_walked (path : Path) (document : E) :
    outcome answer read path document = walked answer read path.asSteps document {} := by
  cases path with
  | empty => rfl
  | anchored start steps => rw [outcome_anchored, Path.asSteps, walked_descend]

/-! ## Moves -/

private theorem head?_stations_asSteps (start : Anchor) (steps : List Step) (document : E) :
    (stations answer (Path.anchored start steps).asSteps document).head? =
      (answer start.query document)[start.index]? := by
  rw [Path.asSteps, stations]
  cases (answer start.query document)[start.index]? <;> rfl

/-- A walk that comes to its end has found something in all its moves. -/
theorem length_stations {steps : List Step} {current element : E}
    (reached : deepest? answer steps current = some element) :
    (stations answer steps current).length = steps.countP isDescend := by
  induction steps generalizing current with
  | nil => rfl
  | cons step rest ih =>
    cases step with
    | descend anchor =>
      rw [deepest?] at reached
      rw [stations]
      obtain ⟨next, found, reached⟩ := Option.bind_eq_some_iff.mp reached
      rw [found, List.countP_cons_of_pos rfl]
      exact congrArg Nat.succ (ih reached)
    | populate | find =>
      rw [stations, List.countP_cons_of_neg Bool.false_ne_true]
      exact ih reached

end

section

open Document

variable {answer : String → Place → List Place}
  (within : ∀ selector root, ∀ place ∈ answer selector root, place ∈ root.descendants)

include within

/-- Every move leads further down. -/
theorem descending_stations (steps : List Step) (current : Place) :
    Place.Descending (current :: stations answer steps current) := by
  induction steps generalizing current with
  | nil => exact List.pairwise_singleton _ _
  | cons step rest ih =>
    cases step with
    | descend anchor =>
      rw [stations]
      cases found : (answer anchor.query current)[anchor.index]? with
      | none => exact List.pairwise_singleton _ _
      | some next =>
        have below := within _ _ next (List.mem_of_getElem? found)
        have others := ih next
        refine List.pairwise_cons.mpr ⟨?_, others⟩
        intro place member
        rcases List.mem_cons.mp member with rfl | later
        · exact below
        · exact Place.mem_descendants_trans below ((List.pairwise_cons.mp others).1 place later)
    | populate | find => exact ih current

private theorem readingsAt_below {fields : List FieldSpec} {current : Place}
    {reading : Place × Place}
    (member : reading ∈ readingsAt answer fields current) :
    reading.1 = current ∧ reading.2 ∈ reading.1.descendants := by
  obtain ⟨source, among, rfl⟩ := List.mem_map.mp member
  obtain ⟨field, -, taken⟩ := List.mem_flatMap.mp among
  exact ⟨rfl, within _ _ source (Selection.mem_of_mem_taken taken)⟩

/-- What is read lies inside the element where the path stands. -/
theorem readings_below {steps : List Step} {current : Place} {reading : Place × Place}
    (member : reading ∈ readings answer steps current) :
    reading.1 ∈ current :: stations answer steps current ∧
      reading.2 ∈ reading.1.descendants := by
  induction steps generalizing current with
  | nil => cases member
  | cons step rest ih =>
    cases step with
    | descend anchor =>
      rw [readings] at member
      rw [stations]
      cases found : (answer anchor.query current)[anchor.index]? with
      | none =>
        rw [found] at member
        cases member
      | some next =>
        rw [found] at member
        obtain ⟨standing, below⟩ := ih member
        exact ⟨List.mem_cons_of_mem _ standing, below⟩
    | populate | find =>
      rw [readings] at member
      rcases List.mem_append.mp member with now | later
      · obtain ⟨same, below⟩ := readingsAt_below within now
        exact ⟨same ▸ List.mem_cons_self, below⟩
      · exact ih later

/-- With more moves than there are levels below the start, one of the moves finds nothing. -/
theorem exists_misses {start : Anchor} {steps : List Step} {document first : Place}
    (starts : (answer start.query document)[start.index]? = some first)
    (deep : first.levelsBelow < steps.countP isDescend) :
    ∃ front anchor rest, steps = front ++ .descend anchor :: rest ∧
      Misses answer start front anchor document := by
  have lost : reached? answer (.anchored start steps) document = none := by
    rw [reached?, starts, Option.bind_some]
    cases reached : deepest? answer steps first with
    | none => rfl
    | some element =>
      have length := length_stations reached
      have bound := (descending_stations within steps first).length_le
      omega
  rcases reached?_eq_none_iff.mp lost with nothing | misses
  · rw [starts] at nothing
    cases nothing
  · exact misses

/-- What a path reads lies inside the element that it starts at. -/
theorem readings_below_start {path : Path} {document : Place} {reading : Place × Place}
    (member : reading ∈ readings answer path.asSteps document) :
    reading.1 ∈ stations answer path.asSteps document ∧
      ∀ first ∈ (stations answer path.asSteps document).head?, reading.2 ∈ first.descendants := by
  cases path with
  | empty => cases member
  | anchored start steps =>
    rw [Path.asSteps, readings] at member
    rw [Path.asSteps, stations]
    cases found : (answer start.query document)[start.index]? with
    | none =>
      rw [found] at member
      cases member
    | some element =>
      rw [found] at member
      obtain ⟨standing, below⟩ := readings_below within member
      refine ⟨standing, ?_⟩
      rintro first ⟨⟩
      exact (descending_stations within steps element).below_head standing below

end

/-! ## Evaluation -/

section

open Document

variable {ε : Type}

/-- How a path reads in a document when evaluating it gives `result`. Its start and every move that
finds something lead further down. What it reads lies inside the element where it stands by then,
and so inside the one that it starts at; what an engine answers and reads elsewhere has no part in
the result. With more moves than there are levels below the start, a move is come to that finds
nothing, and the steps in front of it give the same result. -/
structure ReadsBelow (engine : Engine (Logged ε) Place) (answer : String → Place → List Place)
    (path : Path) (document : Place) (result : PathResult) : Prop where
  gives : (engine.evaluate path document).Gives result
  descending : Place.Descending (document :: stations answer path.asSteps document)
  standing : ∀ reading ∈ readings answer path.asSteps document,
    reading.1 ∈ stations answer path.asSteps document
  below : ∀ reading ∈ readings answer path.asSteps document, reading.2 ∈ reading.1.descendants
  belowStart : ∀ reading ∈ readings answer path.asSteps document,
    ∀ first ∈ (stations answer path.asSteps document).head?, reading.2 ∈ first.descendants
  nothingElse : ∀ (other : Engine (Logged ε) Place) (answer' : String → Place → List Place),
    other.Notices → (∀ selector ∈ path.selectors, other.Answers answer' selector) →
    (∀ place ∈ document :: stations answer path.asSteps document, ∀ selector,
      answer' selector place = answer selector place) →
    (∀ reading ∈ readings answer path.asSteps document, ∀ target,
      other.read target reading.2 = engine.read target reading.2) →
    (other.evaluate path document).Gives result
  misses : ∀ start steps, path = .anchored start steps →
    ∀ first ∈ (stations answer path.asSteps document).head?,
    first.levelsBelow < steps.countP isDescend →
    ∃ front anchor rest, steps = front ++ .descend anchor :: rest ∧
      Misses answer start front anchor document ∧
      (engine.evaluate (.anchored start front) document).Gives result

/-- A path only reads below where it stands, whatever the document, as long as the engine answers
the selectors of the path with elements inside the one that it is asked at. -/
theorem evaluate_reads_below {engine : Engine (Logged ε) Place} (notices : engine.Notices)
    {answer : String → Place → List Place}
    (within : ∀ selector root, ∀ place ∈ answer selector root, place ∈ root.descendants)
    {path : Path} (answers : ∀ selector ∈ path.selectors, engine.Answers answer selector)
    (document : Place) :
    ∃ result, ReadsBelow engine answer path document result := by
  refine ⟨outcome answer engine.read path document, ?_⟩
  constructor
  · exact gives_evaluate notices answers document
  · exact descending_stations within path.asSteps document
  · intro reading member
    exact (readings_below_start within member).1
  · intro reading member
    exact (readings_below within member).2
  · intro reading member
    exact (readings_below_start within member).2
  · intro other answer' otherNotices otherAnswers asked same
    rw [outcome_eq_walked, ← walked_congr asked same, ← outcome_eq_walked]
    exact gives_evaluate otherNotices otherAnswers document
  · rintro start steps rfl first starts deep
    rw [head?_stations_asSteps] at starts
    obtain ⟨front, anchor, rest, rfl, misses⟩ := exists_misses within starts deep
    refine ⟨front, anchor, rest, rfl, misses, ?_⟩
    rw [outcome_of_misses misses]
    exact gives_evaluate notices (fun selector member =>
      answers selector (Path.mem_selectors_append member _)) document

end

end Engine

/-- What a selector finds lies inside the place. -/
theorem Document.Place.found_within {selector : String} {root place : Place}
    (member : place ∈ found selector root) : place ∈ root.descendants := by
  rw [found] at member
  cases parsed : Selector.parse selector with
  | ok alternatives =>
    rw [parsed] at member
    exact List.mem_of_mem_filter member
  | error fault =>
    rw [parsed] at member
    cases member

namespace Engine

open Document

/-- There are two levels below the list, and the third move finds nothing. -/
theorem evaluate_reads_below_list :
    let start : Anchor := ⟨"ul", 0⟩
    let steps : List Step := [.descend ⟨"li", 0⟩,
      .populate (.single "word" ⟨⟨"b", .single 0⟩, .text⟩), .descend ⟨"b", 0⟩, .descend ⟨"i", 0⟩,
      .find ⟨⟨"b", .all ""⟩, .text⟩]
    let document := Document.parse "<ul><li><b>one</b></li></ul>"
    Place.engine.Notices ∧
      (∀ selector root, ∀ place ∈ Place.found selector root, place ∈ root.descendants) ∧
      (∀ selector ∈ (Path.anchored start steps).selectors,
        Place.engine.Answers Place.found selector) ∧
      ∃ result, ReadsBelow Place.engine Place.found (.anchored start steps) document result ∧
        ∃ front anchor rest, steps = front ++ .descend anchor :: rest ∧
          Misses Place.found start front anchor document ∧
          (Place.engine.evaluate (.anchored start front) document).Gives result := by
  intro start steps document
  have notices := Place.engine_notices
  have within := fun selector root place member =>
    @Place.found_within selector root place member
  have parsed : ∀ selector ∈ (Path.anchored start steps).selectors,
      (Selector.parse selector).isOk = true := by
    decide +kernel
  have answers : ∀ selector ∈ (Path.anchored start steps).selectors,
      Place.engine.Answers Place.found selector :=
    fun selector member => Place.engine_answers_of_isOk (parsed selector member)
  have deep : ((stations Place.found (Path.anchored start steps).asSteps document).head?.any
      fun first => first.levelsBelow < steps.countP isDescend) = true := by
    decide +kernel
  obtain ⟨first, starts, fewer⟩ := Option.any_eq_true _ _ |>.mp deep
  obtain ⟨result, reads⟩ := evaluate_reads_below notices within answers document
  have misses := reads.misses start steps rfl first starts (of_decide_eq_true fewer)
  exact ⟨notices, within, answers, result, reads, misses⟩

end Engine

end PageHarvest
