import PageHarvest.Extract.Page

/-! # Queries that answer

An engine may break off at a selector. Which selectors of a path come up, and where they are asked,
is told by the answers alone; the first at which the engine breaks off ends the work, and without
one the work gives what the answers determine: the journal has no part in it.
-/

namespace PageHarvest

namespace Logged

variable {ε α β : Type}

/-- The work succeeds with the value, whatever the journal holds. -/
def Gives (work : Logged ε α) (value : α) : Prop :=
  ∀ journal, ∃ written, work.run.run journal = (.ok value, written)

private theorem gives_pure (value : α) : (pure value : Logged ε α).Gives (pure value : Id α) :=
  fun journal => ⟨journal, rfl⟩

private theorem gives_note (entry : Journal.Entry) : (note entry : Logged ε Unit).Gives () :=
  fun journal => ⟨journal ++ [entry], rfl⟩

/-- What comes of work that may meet a refusal. -/
def settle (refusal : Option ε) (value : α) : Except ε α :=
  match refusal with
  | none => .ok value
  | some fault => .error fault

/-- The work fails with the refusal, if there is one, and otherwise succeeds with the value,
whatever the journal holds. -/
def Settles (work : Logged ε α) (refusal : Option ε) (value : α) : Prop :=
  ∀ journal, ∃ written, work.run.run journal = (settle refusal value, written)

private theorem Gives.settles {work : Logged ε α} {value : α} (gives : work.Gives value) :
    work.Settles none value := gives

/-- Work that settles without a refusal gives its value. -/
theorem Settles.gives {work : Logged ε α} {value : α} (settles : work.Settles none value) :
    work.Gives value := settles

theorem settles_pure (value : α) : (pure value : Logged ε α).Settles none (pure value : Id α) :=
  gives_pure value

private theorem settles_throw (fault : ε) (value : α) :
    (throw fault : Logged ε α).Settles (some fault) value :=
  fun journal => ⟨journal, rfl⟩

/-- Work in two parts meets the first refusal of its parts. -/
theorem Settles.bind {work : Logged ε α} {next : α → Logged ε β} {refusal : Option ε}
    {settled : Id α} {go : α → Id β} (first : work.Settles refusal settled)
    (later : α → Option ε) (second : ∀ value, (next value).Settles (later value) (go value)) :
    (work >>= next).Settles (refusal.or (later settled)) (settled >>= go : Id β) := by
  intro journal
  obtain ⟨between, ran⟩ := first journal
  cases refusal with
  | some fault =>
    refine ⟨between, ?_⟩
    rw [ExceptT.run_bind, StateT.run_bind, ran]
    rfl
  | none =>
    obtain ⟨written, ended⟩ := second settled between
    refine ⟨written, ?_⟩
    rw [ExceptT.run_bind, StateT.run_bind, ran]
    exact ended

/-- Work in two parts of which only the first may meet a refusal. -/
theorem Settles.bind_gives {work : Logged ε α} {next : α → Logged ε β} {refusal : Option ε}
    {settled : Id α} {go : α → Id β} (first : work.Settles refusal settled)
    (second : ∀ value, (next value).Gives (go value)) :
    (work >>= next).Settles refusal (settled >>= go : Id β) := by
  rw [← refusal.or_none]
  exact first.bind (fun _ => none) fun value => (second value).settles

/-- Work in two parts gives what its parts give when nothing is written. -/
theorem Gives.bind {work : Logged ε α} {next : α → Logged ε β} {settled : Id α} {go : α → Id β}
    (first : work.Gives settled) (second : ∀ value, (next value).Gives (go value)) :
    (work >>= next).Gives (settled >>= go : Id β) :=
  first.settles.bind_gives second

theorem Settles.outcome {work : Logged ε α} {refusal : Option ε} {value : α}
    (settles : work.Settles refusal value) : work.outcome.1 = settle refusal value := by
  obtain ⟨written, ran⟩ := settles []
  exact congrArg Prod.fst ran

end Logged

/-- The selectors that a step asks for. -/
def Step.selectors : Step → List String
  | .descend anchor => [anchor.query]
  | .populate fields => fields.entries.map fun entry => entry.2.destination.query
  | .find field => [field.destination.query]

/-- The selectors of a path. -/
def Path.selectors : Path → List String
  | .empty => []
  | .anchored start steps => start.query :: steps.flatMap Step.selectors

namespace Engine

variable {ε E : Type}

/-- The engine answers a selector as a function does, wherever it is asked. -/
def Answers (engine : Engine (Logged ε) E) (answer : String → E → List E) (selector : String) :
    Prop :=
  ∀ root, (engine.query selector root).Gives (answer selector root)

/-- Taking notice of a miss never fails. -/
def Notices (engine : Engine (Logged ε) E) : Prop :=
  ∀ selector index found, (engine.missed selector index found).Gives ()

/-- The engine whose queries do nothing but answer. -/
def answering (answer : String → E → List E) (read : Target → E → String) : Engine Id E where
  query := answer
  read := read
  missed _ _ _ := ()

theorem nth_answering {answer : String → E → List E} {read : Target → E → String}
    (selector : String) (index : Nat) (root : E) :
    (answering answer read).nth selector index root = (answer selector root)[index]? := by
  dsimp only [nth, answering, bind]
  cases (answer selector root)[index]? with
  | some element => rfl
  | none => rfl

/-! ## What is asked -/

section

variable (answer : String → E → List E)

/-- What is asked while steps are followed: selectors, each with the element it is asked at. -/
def asked : List Step → E → List (String × E)
  | [], _ => []
  | .descend anchor :: rest, current =>
    (anchor.query, current) :: match (answer anchor.query current)[anchor.index]? with
      | some next => asked rest next
      | none => []
  | .populate fields :: rest, current =>
    fields.entries.map (fun entry => (entry.2.destination.query, current)) ++ asked rest current
  | .find field :: rest, current => (field.destination.query, current) :: asked rest current

/-- What is asked while a path is evaluated. -/
def askedBy (path : Path) (document : E) : List (String × E) :=
  match path with
  | .empty => []
  | .anchored start steps =>
    (start.query, document) :: match (answer start.query document)[start.index]? with
      | some element => asked answer steps element
      | none => []

end

/-! ## What comes of it -/

/-- The engine meets a selector with a fault, if there is one where it is asked, and otherwise
answers it as a function does. -/
def Meets (engine : Engine (Logged ε) E) (answer : String → E → List E) (selector : String)
    (fault? : E → Option ε) : Prop :=
  ∀ root, (engine.query selector root).Settles (fault? root) (answer selector root)

variable {engine : Engine (Logged ε) E} {answer : String → E → List E}

theorem Answers.meets {selector : String} (answers : engine.Answers answer selector) :
    engine.Meets answer selector fun _ => none := answers

section

variable (notices : engine.Notices) {fault? : E → Option ε}

include notices

/-- Looking up one match settles as the library does on the selector. -/
theorem settles_nth {selector : String} (meets : engine.Meets answer selector fault?)
    (index : Nat) (root : E) :
    (engine.nth selector index root).Settles (fault? root)
      ((answering answer engine.read).nth selector index root) := by
  refine (meets root).bind_gives fun found => ?_
  cases found[index]? with
  | some element => exact Logged.gives_pure (some element)
  | none => exact (notices selector index found.length).bind fun _ => Logged.gives_pure none

/-- Finding values settles as the library does on the selector of the field. -/
theorem settles_findValues {field : FieldSpec}
    (meets : engine.Meets answer field.destination.query fault?) (root : E) :
    (engine.findValues field root).Settles (fault? root)
      ((answering answer engine.read).findValues field root) := by
  obtain ⟨⟨query, selection⟩, target⟩ := field
  cases selection with
  | all delimiter => exact (meets root).bind_gives fun found => Logged.gives_pure _
  | single index =>
    refine (settles_nth notices meets index root).bind_gives fun found => ?_
    cases found with
    | some element => exact Logged.gives_pure [engine.read target element]
    | none => exact Logged.gives_pure []

/-- Populating a field settles as the library does on its selector. -/
theorem settles_populateField {field : FieldSpec}
    (meets : engine.Meets answer field.destination.query fault?) (root : E) :
    (engine.populateField field root).Settles (fault? root)
      ((answering answer engine.read).populateField field root) := by
  obtain ⟨⟨query, selection⟩, target⟩ := field
  cases selection with
  | all delimiter => exact (meets root).bind_gives fun found => Logged.gives_pure _
  | single index =>
    refine (settles_nth notices meets index root).bind_gives fun found => ?_
    cases found with
    | some element => exact Logged.gives_pure (engine.read target element)
    | none => exact Logged.gives_pure ""

end

/-- The first fault that anything asked meets with. -/
def firstFault (fault? : String → E → Option ε) (asks : List (String × E)) : Option ε :=
  asks.findSome? fun (selector, root) => fault? selector root

section

variable (fault? : String → E → Option ε)

private theorem firstFault_cons (selector : String) (root : E) (rest : List (String × E)) :
    firstFault fault? ((selector, root) :: rest) =
      (fault? selector root).or (firstFault fault? rest) := by
  rw [firstFault, List.findSome?_cons]
  dsimp only
  cases fault? selector root <;> rfl

theorem firstFault_append (asks others : List (String × E)) :
    firstFault fault? (asks ++ others) = (firstFault fault? asks).or (firstFault fault? others) :=
  List.findSome?_append

end

variable (notices : engine.Notices) {fault? : String → E → Option ε}

include notices

/-- Populating fields breaks off with the first fault in the order of the fields. -/
theorem settles_populateAll {pairs : List (String × FieldSpec)}
    (meets : ∀ pair ∈ pairs,
      engine.Meets answer pair.2.destination.query (fault? pair.2.destination.query))
    (root : E) (fields : FieldMap String) :
    (engine.populateAll root pairs fields).Settles
      (firstFault fault? (pairs.map fun pair => (pair.2.destination.query, root)))
      ((answering answer engine.read).populateAll root pairs fields) := by
  induction pairs generalizing fields with
  | nil => exact Logged.settles_pure fields
  | cons pair rest ih =>
    have first := settles_populateField notices (meets pair List.mem_cons_self) root
    have others := fun other member => meets other (List.mem_cons_of_mem pair member)
    rw [List.map_cons, firstFault_cons]
    exact first.bind
      (fun _ => firstFault fault? (rest.map fun pair => (pair.2.destination.query, root)))
      fun _ => ih others _

/-- A walk meets the first fault among what it asks, and without one gives what the answers
determine. -/
private theorem settles_walk {steps : List Step}
    (meets : ∀ selector ∈ steps.flatMap Step.selectors,
      engine.Meets answer selector (fault? selector))
    (current : E) (result : PathResult) :
    (engine.walk steps current result).Settles (firstFault fault? (asked answer steps current))
      ((answering answer engine.read).walk steps current result) := by
  induction steps generalizing current result with
  | nil => exact Logged.settles_pure result
  | cons step rest ih =>
    rw [List.flatMap_cons, List.forall_mem_append] at meets
    obtain ⟨here, later⟩ := meets
    cases step with
    | descend anchor =>
      have moves := settles_nth notices (here _ List.mem_cons_self) anchor.index current
      rw [asked, firstFault_cons, ← @nth_answering E answer engine.read]
      refine moves.bind (fun next => firstFault fault? (match next with
        | some element => asked answer rest element
        | none => [])) fun next => ?_
      cases next with
      | some element => exact ih later element result
      | none => exact Logged.settles_pure result
    | populate fields =>
      have met : ∀ pair ∈ fields.entries,
          engine.Meets answer pair.2.destination.query (fault? pair.2.destination.query) :=
        fun pair member => here _ (List.mem_map_of_mem member)
      have populates := settles_populateAll notices met current result.fields
      rw [asked, firstFault_append]
      exact populates.bind (fun _ => firstFault fault? (asked answer rest current))
        fun _ => ih later current _
    | find field =>
      have finds := settles_findValues notices (here _ List.mem_cons_self) current
      rw [asked, firstFault_cons]
      exact finds.bind (fun _ => firstFault fault? (asked answer rest current))
        fun _ => ih later current _

/-- Evaluating a path meets the first fault among what is asked, and without one it gives what the
answers determine. -/
theorem settles_evaluate {path : Path}
    (meets : ∀ selector ∈ path.selectors, engine.Meets answer selector (fault? selector))
    (document : E) :
    (engine.evaluate path document).Settles (firstFault fault? (askedBy answer path document))
      ((answering answer engine.read).evaluate path document) := by
  cases path with
  | empty => exact Logged.settles_pure ({} : PathResult)
  | anchored start steps =>
    rw [Path.selectors, List.forall_mem_cons] at meets
    have starts := settles_nth notices meets.1 start.index document
    rw [askedBy, firstFault_cons, ← @nth_answering E answer engine.read]
    refine starts.bind (fun found => firstFault fault? (match found with
      | some element => asked answer steps element
      | none => [])) fun found => ?_
    cases found with
    | some element => exact settles_walk notices meets.2 element {}
    | none => exact Logged.settles_pure ({} : PathResult)

/-- Evaluating a path whose selectors are answered gives what the answers determine. -/
theorem gives_evaluate {path : Path}
    (answers : ∀ selector ∈ path.selectors, engine.Answers answer selector) (document : E) :
    (engine.evaluate path document).Gives
      ((answering answer engine.read).evaluate path document) := by
  have settles := settles_evaluate notices (fun selector member => (answers selector member).meets)
    document
  rw [firstFault, List.findSome?_eq_none_iff.mpr fun _ _ => rfl] at settles
  exact settles.gives

end Engine

namespace Library

variable {ε E : Type} (library : Library ε E)

/-- What is found with a selector; one that is refused, in whatever way, finds nothing. -/
def found (selector : String) (root : E) : List E :=
  match library.select selector root with
  | .found elements => elements
  | .refused _ | .broken _ => []

/-- The fault at which the library breaks off, if it does. -/
def fault? (selector : String) (root : E) : Option ε :=
  match library.select selector root with
  | .found _ | .refused _ => none
  | .broken fault => some fault

/-- Taking notice of a miss never fails, whatever the library. -/
theorem engine_notices : library.engine.Notices :=
  fun _ _ _ => Logged.gives_note _

/-- The engine over a library finds what the library finds, and breaks off as it does. -/
theorem engine_meets (selector : String) :
    library.engine.Meets library.found selector (library.fault? selector) := by
  intro root
  change Logged.Settles (library.query selector root) _ _
  rw [query, found, fault?]
  cases library.select selector root with
  | found elements => exact Logged.settles_pure elements
  | refused report =>
    have nothing (_ : Unit) : (pure [] : Logged ε (List E)).Gives [] := Logged.gives_pure []
    exact (Logged.gives_note _).bind nothing
  | broken fault => exact Logged.settles_throw fault []

end Library

/-- What a selector text asks for that no query answers. -/
def Selector.unsupported? (selector : String) : Option Unsupported :=
  match parse selector with
  | .ok _ | .error (.form _ _) => none
  | .error (.unsupported what) => some what

/-- A selector is unsupported exactly when the parser says so. -/
theorem Selector.unsupported?_eq_some_iff {selector : String} {what : Unsupported} :
    unsupported? selector = some what ↔ parse selector = .error (.unsupported what) := by
  rw [unsupported?]
  rcases parse selector with (⟨fault, position⟩ | other) | alternatives
  · simp
  · simp
  · simp

namespace Document.Place

/-- What a selector finds inside a place; one of bad form finds nothing. -/
def found (selector : String) (root : Place) : List Place :=
  match Selector.parse selector with
  | .ok alternatives => Selector.select alternatives root
  | .error _ => []

/-- A selector that is refused finds nothing. -/
theorem found_of_error {selector : String} {fault : Selector.Fault}
    (refused : Selector.parse selector = .error fault) (root : Place) :
    found selector root = [] := by
  rw [found, refused]

theorem library_select (selector : String) (root : Place) :
    library.select selector root = select selector root := rfl

private theorem library_found : library.found = found := by
  funext selector root
  rw [Library.found, found, library_select, select]
  rcases Selector.parse selector with (⟨fault, position⟩ | other) | alternatives <;> rfl

private theorem library_fault? (selector : String) (root : Place) :
    library.fault? selector root = Selector.unsupported? selector := by
  rw [Library.fault?, Selector.unsupported?, library_select, select]
  rcases Selector.parse selector with (⟨fault, position⟩ | other) | alternatives <;> rfl

theorem engine_notices : engine.Notices :=
  library.engine_notices

theorem engine_meets (selector : String) :
    engine.Meets found selector fun _ => Selector.unsupported? selector := by
  intro root
  have settles := library.engine_meets selector root
  rwa [library_found, library_fault?] at settles

/-- The engine for documents answers every selector that is not beyond it. -/
theorem engine_answers {selector : String}
    (supported : ∀ what, Selector.parse selector ≠ .error (.unsupported what)) :
    engine.Answers found selector := by
  intro root
  have settles := engine_meets selector root
  have none : Selector.unsupported? selector = none :=
    Option.eq_none_iff_forall_ne_some.mpr fun what refused =>
      supported what (Selector.unsupported?_eq_some_iff.mp refused)
  rw [none] at settles
  exact settles.gives

/-- The engine answers every selector that parses. -/
theorem engine_answers_of_isOk {selector : String}
    (parsed : (Selector.parse selector).isOk = true) :
    engine.Answers found selector := by
  apply engine_answers
  intro what refused
  rw [refused] at parsed
  cases parsed

end Document.Place

end PageHarvest
