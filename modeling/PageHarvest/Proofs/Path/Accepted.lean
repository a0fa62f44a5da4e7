import PageHarvest.Proofs.Path.Grammar

/-! # Which steps compile

A step compiles if its brackets are found, its arguments can be read, and every argument it needs is
given in one of its forms. A step that reads values therefore adds itself to a text just if its
selection and its location have one of theirs, and one diagnostic otherwise, whatever the text.
-/

namespace PageHarvest.Path

open Text

/-! ## Arguments that a step needs -/

/-- An argument that is given and not empty. -/
def Given (args : Arguments) (key : String) (value : List Char) : Prop :=
  args.get? key = some value ∧ value ≠ []

section

variable {args : Arguments}

private theorem required_eq_ok_iff {key : String} {fault : Fault} {value : List Char} :
    required args key fault = .ok value ↔ Given args key value := by
  rw [required, Given]
  split
  · next missing => simp [missing]
  · next empty => simp [empty, eq_comm]
  · next other given found =>
    rw [found, Except.ok.injEq, Option.some.injEq]
    constructor
    · rintro rfl
      exact ⟨rfl, given⟩
    · exact And.left

private theorem Given.unique {key : String} {value other : List Char} (given : Given args key value)
    (same : Given args key other) : value = other :=
  Option.some.inj (given.1.symm.trans same.1)

private theorem map_ofList_eq_ok_iff {read : Except Fault (List Char)} {text : String} :
    read.map String.ofList = .ok text ↔ read = .ok text.toList := by
  constructor
  · intro succeeds
    obtain ⟨value, rfl, rfl⟩ := exists_of_map_eq_ok succeeds
    rw [String.toList_ofList]
  · rintro rfl
    rw [Except.map, String.ofList_toList]

/-- A step has a selector exactly when one is given. -/
theorem selectorOf_eq_ok_iff {query : String} :
    selectorOf args = .ok query ↔ Given args "selector" query.toList := by
  rw [selectorOf, map_ofList_eq_ok_iff, required_eq_ok_iff]

private theorem nameOf_eq_ok_iff {name : String} :
    nameOf args = .ok name ↔ Given args "name" name.toList := by
  rw [nameOf, map_ofList_eq_ok_iff, required_eq_ok_iff]

end

/-- Arguments that say where to move. -/
structure GivesAnchor (args : Arguments) (anchor : Anchor) : Prop where
  selector : Given args "selector" anchor.query.toList
  selects : GivesSelection LooseCall (args.get? "select") (.single anchor.index)

/-- Arguments that say what to read. -/
structure GivesField (args : Arguments) (field : FieldSpec) : Prop where
  selector : Given args "selector" field.destination.query.toList
  selects : GivesSelection LooseCall (args.get? "select") field.destination.selection
  reads : GivesTarget LooseCall (args.get? "loc") field.target

/-- The step that a keyword and arguments make behind the start. -/
inductive Makes (args : Arguments) : Keyword → Step → Prop
  | descend {anchor : Anchor} (moves : GivesAnchor args anchor) :
      Makes args .descend (.descend anchor)
  | find {field : FieldSpec} (reads : GivesField args field) : Makes args .find (.find field)
  | populate {name : String} {field : FieldSpec} (named : Given args "name" name.toList)
      (reads : GivesField args field) : Makes args .populate (.populate (.single name field))

/-! ## Compiling a step -/

section

variable {token : List Char}

/-- A moving step compiles exactly when its arguments give an anchor. -/
theorem compileAnchor_eq_ok_iff {anchor : Anchor} :
    compileAnchor token = .ok anchor ↔
      ∃ args, stepArguments token = .ok args ∧ GivesAnchor args anchor := by
  constructor
  · intro compiles
    obtain ⟨args, arguments, compiles⟩ := exists_of_bind_eq_ok compiles
    obtain ⟨query, selector, compiles⟩ := exists_of_bind_eq_ok compiles
    obtain ⟨index, selects, compiles⟩ := exists_of_bind_eq_ok compiles
    cases compiles
    exact ⟨args, arguments, selectorOf_eq_ok_iff.mp selector, indexOf_eq_ok_iff.mp selects⟩
  · rintro ⟨args, arguments, selector, selects⟩
    rw [compileAnchor, arguments]
    change (do
      let query ← selectorOf args
      return (⟨query, ← indexOf args⟩ : Anchor)) = _
    rw [selectorOf_eq_ok_iff.mpr selector, indexOf_eq_ok_iff.mpr selects]
    rfl

/-- A find step compiles exactly when its arguments give a field. -/
private theorem compileFind_eq_ok_iff {field : FieldSpec} :
    compileFind token = .ok field ↔
      ∃ args, stepArguments token = .ok args ∧ GivesField args field := by
  constructor
  · intro compiles
    obtain ⟨args, arguments, compiles⟩ := exists_of_bind_eq_ok compiles
    obtain ⟨query, selector, compiles⟩ := exists_of_bind_eq_ok compiles
    obtain ⟨target, reads, compiles⟩ := exists_of_bind_eq_ok compiles
    obtain ⟨selection, selects, compiles⟩ := exists_of_bind_eq_ok compiles
    cases compiles
    exact ⟨args, arguments, selectorOf_eq_ok_iff.mp selector, selectionOf_eq_ok_iff.mp selects,
      locationOf_eq_ok_iff.mp reads⟩
  · rintro ⟨args, arguments, selector, selects, reads⟩
    rw [compileFind, arguments]
    change (do
      let query ← selectorOf args
      let target ← locationOf args
      return (⟨⟨query, ← selectionOf args⟩, target⟩ : FieldSpec)) = _
    rw [selectorOf_eq_ok_iff.mpr selector, locationOf_eq_ok_iff.mpr reads,
      selectionOf_eq_ok_iff.mpr selects]
    rfl

/-- A populate step compiles exactly when its arguments give a name and a field. -/
private theorem compilePopulate_eq_ok_iff {name : String} {field : FieldSpec} :
    compilePopulate token = .ok (name, field) ↔
      ∃ args, stepArguments token = .ok args ∧ Given args "name" name.toList ∧
        GivesField args field := by
  constructor
  · intro compiles
    obtain ⟨args, arguments, compiles⟩ := exists_of_bind_eq_ok compiles
    obtain ⟨query, selector, compiles⟩ := exists_of_bind_eq_ok compiles
    obtain ⟨target, reads, compiles⟩ := exists_of_bind_eq_ok compiles
    obtain ⟨own, named, compiles⟩ := exists_of_bind_eq_ok compiles
    obtain ⟨selection, selects, compiles⟩ := exists_of_bind_eq_ok compiles
    cases compiles
    exact ⟨args, arguments, nameOf_eq_ok_iff.mp named, selectorOf_eq_ok_iff.mp selector,
      selectionOf_eq_ok_iff.mp selects, locationOf_eq_ok_iff.mp reads⟩
  · rintro ⟨args, arguments, named, selector, selects, reads⟩
    rw [compilePopulate, arguments]
    change (do
      let query ← selectorOf args
      let target ← locationOf args
      let own ← nameOf args
      return (own, (⟨⟨query, ← selectionOf args⟩, target⟩ : FieldSpec))) = _
    rw [selectorOf_eq_ok_iff.mpr selector, locationOf_eq_ok_iff.mpr reads,
      nameOf_eq_ok_iff.mpr named, selectionOf_eq_ok_iff.mpr selects]
    rfl

/-- A later step compiles just if its arguments can be read and make it. -/
theorem compileLater_eq_ok_iff {step : Step} :
    compileLater token = .ok step ↔
      ∃ keyword args, keyword? token = some keyword ∧ stepArguments token = .ok args ∧
        Makes args keyword step := by
  constructor
  · intro compiles
    rw [compileLater] at compiles
    cases isKeyword : keyword? token with
    | none =>
      rw [isKeyword] at compiles
      cases compiles
    | some keyword =>
      rw [isKeyword] at compiles
      cases keyword with
      | start => cases compiles
      | descend =>
        obtain ⟨anchor, whole, rfl⟩ := exists_of_map_eq_ok compiles
        obtain ⟨args, arguments, moves⟩ := compileAnchor_eq_ok_iff.mp whole
        exact ⟨_, args, rfl, arguments, .descend moves⟩
      | find =>
        obtain ⟨field, whole, rfl⟩ := exists_of_map_eq_ok compiles
        obtain ⟨args, arguments, reads⟩ := compileFind_eq_ok_iff.mp whole
        exact ⟨_, args, rfl, arguments, .find reads⟩
      | populate =>
        obtain ⟨⟨name, field⟩, whole, rfl⟩ := exists_of_map_eq_ok compiles
        obtain ⟨args, arguments, named, reads⟩ := compilePopulate_eq_ok_iff.mp whole
        exact ⟨_, args, rfl, arguments, .populate named reads⟩
  · rintro ⟨keyword, args, isKeyword, arguments, makes⟩
    rw [compileLater, isKeyword]
    cases makes with
    | descend moves =>
      exact congrArg (Except.map _) (compileAnchor_eq_ok_iff.mpr ⟨args, arguments, moves⟩)
    | find reads =>
      exact congrArg (Except.map _) (compileFind_eq_ok_iff.mpr ⟨args, arguments, reads⟩)
    | populate named reads =>
      exact congrArg (Except.map _)
        (compilePopulate_eq_ok_iff.mpr ⟨args, arguments, named, reads⟩)

end

/-! ## Steps that read values -/

/-- A step that reads values, all its arguments valid but perhaps its selection and its location,
and the step that it is for a selection and a target. -/
inductive ReadingStep (token : List Char) (args : Arguments) : (Selection → Target → Step) → Prop
  | find {query : String} (isKeyword : keyword? token = some .find)
    (arguments : stepArguments token = .ok args) (selector : Given args "selector" query.toList) :
    ReadingStep token args fun selection target => .find ⟨⟨query, selection⟩, target⟩
  | populate {name query : String} (isKeyword : keyword? token = some .populate)
    (arguments : stepArguments token = .ok args) (selector : Given args "selector" query.toList)
    (named : Given args "name" name.toList) :
    ReadingStep token args fun selection target =>
      .populate (.single name ⟨⟨query, selection⟩, target⟩)

section

variable {token : List Char} {args : Arguments} {make : Selection → Target → Step}

private theorem ReadingStep.keyword?_ne_start (reading : ReadingStep token args make) :
    ∃ keyword, keyword? token = some keyword ∧ keyword ≠ .start := by
  cases reading with
  | find isKeyword | populate isKeyword => exact ⟨_, isKeyword, nofun⟩

/-- A later reading step compiles exactly when its selection and its location do. -/
private theorem ReadingStep.compileLater_eq_ok_iff (reading : ReadingStep token args make)
    {step : Step} :
    compileLater token = .ok step ↔
      ∃ selection target, GivesSelection LooseCall (args.get? "select") selection ∧
        GivesTarget LooseCall (args.get? "loc") target ∧ step = make selection target := by
  rw [Path.compileLater_eq_ok_iff]
  cases reading with
  | find isKeyword arguments selector =>
    rw [isKeyword, arguments]
    constructor
    · rintro ⟨keyword, other, ⟨⟩, ⟨⟩, makes⟩
      cases makes with
      | find reads =>
        obtain rfl := String.toList_inj.mp (selector.unique reads.selector)
        exact ⟨_, _, reads.selects, reads.reads, rfl⟩
    · rintro ⟨selection, target, selects, reads, rfl⟩
      exact ⟨_, _, rfl, rfl, .find ⟨selector, selects, reads⟩⟩
  | populate isKeyword arguments selector named =>
    rw [isKeyword, arguments]
    constructor
    · rintro ⟨keyword, other, ⟨⟩, ⟨⟩, makes⟩
      cases makes with
      | populate same reads =>
        obtain rfl := String.toList_inj.mp (selector.unique reads.selector)
        obtain rfl := String.toList_inj.mp (named.unique same)
        exact ⟨_, _, reads.selects, reads.reads, rfl⟩
    · rintro ⟨selection, target, selects, reads, rfl⟩
      exact ⟨_, _, rfl, rfl, .populate named ⟨selector, selects, reads⟩⟩

end

/-- What a reading step adds to its text by the forms of its selection and its location: the step
that they make, or one diagnostic that names it. -/
inductive Outcome (Call : CallForm) (token : List Char) (args : Arguments)
    (make : Selection → Target → Step) : List Step × List Diagnostic → Prop
  | compiled {selection : Selection} {target : Target}
    (selects : GivesSelection Call (args.get? "select") selection)
    (reads : GivesTarget Call (args.get? "loc") target) :
    Outcome Call token args make ([make selection target], [])
  | refused {message : String}
    (unread : (∀ selection, ¬ GivesSelection Call (args.get? "select") selection) ∨
      ∀ target, ¬ GivesTarget Call (args.get? "loc") target) :
    Outcome Call token args make ([], [⟨String.ofList token, message⟩])

/-- A value in which nothing but blanks stands between the word and its bracket and nothing stands
behind the last bracket, if it begins with the word and has brackets. -/
def Tight (word : String) (value : Option (List Char)) : Prop :=
  ∀ raw ∈ value, ∀ inner, LooseCall word inner raw → WritesCall word inner raw

section

variable {value : Option (List Char)}

private theorem Tight.givesSelection_iff (tight : Tight "all" value) {selection : Selection} :
    GivesSelection WritesCall value selection ↔ GivesSelection LooseCall value selection := by
  constructor
  · intro gives
    cases gives with
    | unsaid => exact .unsaid
    | empty => exact .empty
    | index read => exact .index read
    | all spells => exact .all spells
    | joined call => exact .joined (looseCall_of_writesCall call)
  · intro gives
    cases gives with
    | unsaid => exact .unsaid
    | empty => exact .empty
    | index read => exact .index read
    | all spells => exact .all spells
    | joined call => exact .joined (tight _ rfl _ call)

private theorem Tight.givesTarget_iff (tight : Tight "attr" value) {target : Target} :
    GivesTarget WritesCall value target ↔ GivesTarget LooseCall value target := by
  constructor
  · intro gives
    cases gives with
    | text spells => exact .text spells
    | id spells => exact .id spells
    | classes spells => exact .classes spells
    | named call given => exact .named (looseCall_of_writesCall call) given
  · intro gives
    cases gives with
    | text spells => exact .text spells
    | id spells => exact .id spells
    | classes spells => exact .classes spells
    | named call given => exact .named (tight _ rfl _ call) given

end

section

variable {token : List Char} {args : Arguments} {make : Selection → Target → Step}

private theorem ReadingStep.outcome (reading : ReadingStep token args make) :
    Outcome LooseCall token args make (compileOne token) := by
  rw [compileOne]
  cases result : compileLater token with
  | ok step =>
    obtain ⟨selection, target, selects, reads, rfl⟩ := reading.compileLater_eq_ok_iff.mp result
    exact .compiled selects reads
  | error fault =>
    refine .refused ?_
    by_contra both
    rw [not_or, not_forall_not, not_forall_not] at both
    obtain ⟨⟨selection, selects⟩, target, reads⟩ := both
    have compiles := reading.compileLater_eq_ok_iff.mpr ⟨_, _, selects, reads, rfl⟩
    rw [result] at compiles
    cases compiles

private theorem Outcome.tighten {added : List Step × List Diagnostic}
    (outcome : Outcome LooseCall token args make added) (select : Tight "all" (args.get? "select"))
    (loc : Tight "attr" (args.get? "loc")) : Outcome WritesCall token args make added := by
  cases outcome with
  | compiled selects reads =>
    exact .compiled (select.givesSelection_iff.mpr selects) (loc.givesTarget_iff.mpr reads)
  | refused unread =>
    refine .refused ?_
    simpa only [select.givesSelection_iff, loc.givesTarget_iff] using unread

/-- A reading step whose other arguments are valid compiles just if its selection is absent, empty,
a number that is not negative, `ALL` or a call of `ALL`, and its location `TEXT`, `ID`, `CLASS` or a
call of `ATTR` with a name that is not blank. A call is a text that begins with the word and has
brackets. What stands between the word and the first opening bracket and behind the last closing
one is not read; where nothing stands there, the call is the word and its brackets. Every other
value gives one diagnostic and no step, and the step has the same part in every text: behind the
first step it adds what it adds to the rest, and a text that it opens has no path. -/
theorem readingStep_outcome (reading : ReadingStep token args make) :
    ∃ added, Outcome LooseCall token args make added ∧
      (Tight "all" (args.get? "select") → Tight "attr" (args.get? "loc") →
        Outcome WritesCall token args make added) ∧
      (∀ (text : String) (first : List Char) (before after : List (List Char)),
        tokens text.toList = first :: (before ++ token :: after) →
        let whole := assembled (compileFirst first)
          (before.map compileOne ++ added :: after.map compileOne)
        compile text .inPlace = whole ∧ compile text .atEnd = (whole.1.gathered, whole.2)) ∧
      ∀ (text : String) (rest : List (List Char)) (placing : Placing),
        tokens text.toList = token :: rest →
        compile text placing = (.empty, ⟨String.ofList token, "First step must be Start"⟩ ::
          (added.2 ++ (compileAll rest).2)) := by
  refine ⟨compileOne token, reading.outcome, reading.outcome.tighten, ?_, ?_⟩
  · intro text first before after split whole
    have inPlace : compile text .inPlace = whole := by
      rw [compile_eq_assembled split, List.map_append, List.map_cons]
    exact ⟨inPlace, by rw [compile_atEnd, inPlace]⟩
  · intro text rest placing split
    obtain ⟨keyword, isKeyword, notStart⟩ := reading.keyword?_ne_start
    have own : (compileAll [token]).2 = (compileOne token).2 := by
      rw [compileAll_eq]
      exact List.flatMap_singleton _ _
    have misplaced : compileFirst token =
        .error (Fault.startExpected.at token :: (compileOne token).2) := by
      rw [← own, compileFirst, isKeyword]
      cases keyword with
      | start => exact absurd rfl notStart
      | descend | find | populate => rfl
    rw [compile_of_tokens split, misplaced]
    rfl

end

/-- A delimiter and an attribute are read, with blanks before their brackets. -/
theorem readingStep_outcome_joined :
    let token := "FIND(SELECTOR: a, SELECT: all (|), LOC: Attr (href))".toList
    let args : Arguments := [("selector".toList, "a".toList), ("select".toList, "all (|)".toList),
      ("loc".toList, "Attr (href)".toList)]
    let make := fun selection target => Step.find ⟨⟨"a", selection⟩, target⟩
    ReadingStep token args make ∧
      ∃ added, Outcome LooseCall token args make added ∧
        compile (afterStart token) .inPlace =
          assembled (compileFirst "START(SELECTOR: x)".toList) [added] := by
  intro token args make
  have reading : ReadingStep token args make :=
    .find (by decide +kernel) (by decide +kernel) ⟨by decide, by decide⟩
  have isToken : IsToken token := ⟨by decide, by decide⟩
  obtain ⟨added, outcome, -, behindStart, -⟩ := readingStep_outcome reading
  exact ⟨reading, added, outcome,
    (behindStart (afterStart token) _ [] [] (tokens_afterStart isToken)).1⟩

/-- A call begins with its word, and blanks lead from there to its bracket. -/
theorem drop_of_writesCall {word : String} {inner text : List Char}
    (call : WritesCall word inner text) :
    ∃ gap, isBlankText gap = true ∧
      text.drop word.toList.length = gap ++ '(' :: (inner ++ [')']) := by
  obtain ⟨spelling, gap, spells, blank, rfl⟩ := call
  have length : word.toList.length = spelling.length := by rw [← spells, List.length_map]
  exact ⟨gap, blank, by rw [length, List.append_assoc, List.drop_left]⟩

/-- A word that only begins like `ATTR` is read as if it were the word. -/
theorem compile_attributeWord :
    let token := "FIND(SELECTOR: a, LOC: ATTRIBUTE(href))".toList
    let args : Arguments := [("selector".toList, "a".toList),
      ("loc".toList, "ATTRIBUTE(href)".toList)]
    let make := fun selection target => Step.find ⟨⟨"a", selection⟩, target⟩
    ReadingStep token args make ∧
      (∀ target, ¬ GivesTarget WritesCall (args.get? "loc") target) ∧
      compile (afterStart token) .inPlace =
        (.anchored ⟨"x", 0⟩ [make (.single 0) (.attribute "href")], []) := by
  intro token args make
  have isToken : IsToken token := ⟨by decide, by decide⟩
  have added : compileOne token = ([make (.single 0) (.attribute "href")], []) := by decide +kernel
  have loc : args.get? "loc" = some "ATTRIBUTE(href)".toList := by decide
  refine ⟨.find (by decide +kernel) (by decide +kernel) ⟨by decide, by decide⟩, ?_, ?_⟩
  · rw [loc]
    intro target gives
    cases gives with
    | text spells | id spells | classes spells => exact absurd spells (by decide)
    | named call =>
      obtain ⟨gap, blank, rest⟩ := drop_of_writesCall call
      cases gap with
      | nil => exact absurd (List.cons_eq_cons.mp rest).1 (by decide)
      | cons c gap =>
        obtain rfl : 'I' = c := (List.cons_eq_cons.mp rest).1
        exact absurd (isBlank_of_mem blank List.mem_cons_self) (by decide)
  · rw [compile_afterStart isToken, added]

end PageHarvest.Path
