import PageHarvest.Proofs.Path.Placing
import PageHarvest.Proofs.Path.Reading

/-! # Compiling what was written

Compiling the written form of a path gives the path back, whatever the letter case, the blanks and
the order of the arguments. Each layer of the reader takes off what one layer of the writing put
on: the separators between steps, the brackets of a step, the commas between arguments, the colon
in an argument, and the brackets in a value.
-/

namespace PageHarvest.Path

open Text

/-! ## Values -/

private theorem placeable_of_spells {word : String} {text : List Char}
    (small : word.toList.all Char.isLower) (spells : Spells word text) : Placeable text where
  unbroken := unbroken_of_not_mem fun member =>
    absurd (spells.isAlpha small member) (by decide)
  unpadded := spells.unpadded small
  passes := passes_of_letters (fun _ member => spells.isAlpha small member) 0

private theorem placeable_toDigits (index : Nat) : Placeable (Nat.toDigits 10 index) where
  unbroken := unbroken_of_not_mem fun member => absurd (isDigit_of_mem_toDigits member) (by decide)
  unpadded := unpadded_of_forall fun _ member => isBlank_of_isDigit (isDigit_of_mem_toDigits member)
  passes := passes_of_plain (fun c member => by
    have digit := isDigit_of_mem_toDigits member
    refine ⟨?_, ?_, ?_⟩ <;> rintro rfl <;> exact absurd digit (by decide)) 0

theorem placeable_of_writesCall {word : String} {inner text : List Char}
    (small : word.toList.all Char.isLower) (given : word.toList ≠ [])
    (call : WritesCall word inner text) (unbroken : Unbroken inner) (passes : Passes 1 inner 1) :
    Placeable text where
  unbroken := call.unbroken small unbroken
  unpadded := call.unpadded small given
  passes := call.passes small passes

theorem Listable.placeable {value : List Char} (listable : Listable value) : Placeable value where
  unbroken := listable.unbroken
  unpadded := listable.unpadded
  passes := listable.balanced.passes_enclosed listable.commas

private theorem placeable_of_writesTarget {target : Target} {value : List Char}
    (writable : target.Writable) (writes : WritesTarget target value) : Placeable value := by
  cases writes with
  | text spells => exact placeable_of_spells (by decide) spells
  | id spells => exact placeable_of_spells (by decide) spells
  | classes spells => exact placeable_of_spells (by decide) spells
  | @named name inner value padded call =>
    have writable : AttributeName name.toList := writable
    have unbroken : Unbroken inner := writable.unbroken.padded padded
    obtain ⟨front, back, blankFront, blankBack, rfl⟩ := padded
    have passes := ((passes_of_isBlankText blankFront 1).append (writable.balanced.passes 0)).append
      (passes_of_isBlankText blankBack 1)
    exact placeable_of_writesCall (by decide) (by decide) call unbroken passes

private theorem placeable_of_writesSelection {selection : Selection}
    {arguments : List (String × List Char)} (writable : selection.Writable)
    (writes : WritesSelection selection arguments) :
    ∀ argument ∈ arguments, Placeable argument.2 := by
  intro argument member
  cases writes with
  | unsaid => cases member
  | index index =>
    obtain rfl := List.mem_singleton.mp member
    exact placeable_toDigits index
  | all spells =>
    obtain rfl := List.mem_singleton.mp member
    exact placeable_of_spells (by decide) spells
  | @joined delimiter value call =>
    obtain rfl := List.mem_singleton.mp member
    have writable : Bracketable delimiter.toList := writable
    exact placeable_of_writesCall (by decide) (by decide) call writable.unbroken
      (writable.balanced.passes 0)

private theorem WritesSelection.keys {selection : Selection} {arguments : List (String × List Char)}
    (writes : WritesSelection selection arguments) :
    arguments.map Prod.fst = [] ∨ arguments.map Prod.fst = ["select"] := by
  cases writes with
  | unsaid => exact .inl rfl
  | index | all | joined => exact .inr rfl

/-! ## Reading values -/

private theorem asksForAll_of_isDigit {c : Char} (digit : c.isDigit = true) (rest : List Char) :
    asksForAll (c :: rest) = false := by
  have bounds := toNat_of_isDigit digit
  have noDotted : (c.toNat == 0x130) = false := by simp; omega
  have noSigma : (c.toNat == 0x3A3) = false := by simp; omega
  have same : lowerChar c = c := by
    have noUpper : ¬ (c.val ≥ 'A'.val ∧ c.val ≤ 'Z'.val) := fun upper => by
      have := UInt32.le_iff_toNat_le.mp upper.1
      change 65 ≤ c.toNat at this
      omega
    rw [lowerChar, if_pos (by omega)]
    exact dif_neg noUpper
  have differs : ('a' == c) = false := by
    rw [beq_eq_false_iff_ne]
    rintro rfl
    exact absurd digit (by decide)
  have first : lower (c :: rest) = c :: lowerAfter [c] rest := by
    simp [lower, lowerAfter, noDotted, noSigma, same]
  have word : "all".toList = ['a', 'l', 'l'] := by decide
  rw [asksForAll, first, word, List.isPrefixOf, differs, Bool.false_and]

private theorem parseIndex_toDigits {index : Nat} (short : ShortIndex index) :
    parseIndex (Nat.toDigits 10 index) = .ok index := by
  rw [parseIndex, readInteger?_toDigits short]

private theorem asksForAll_of_spells {word : List Char} (spells : Spells "all" word)
    (rest : List Char) :
    asksForAll (word ++ rest) = true := by
  rw [asksForAll, spells.lower_append (by decide)]
  exact List.isPrefixOf_iff_prefix.mpr (List.prefix_append _ _)

/-- A written number selects the match at its place, on every kind of step. -/
theorem indexOf_of_writes {args : Arguments} {index : Nat} {arguments : List (String × List Char)}
    (short : ShortIndex index) (writes : WritesSelection (.single index) arguments)
    (found : args.get? "select" = arguments.lookup "select") : indexOf args = .ok index := by
  cases writes with
  | unsaid => simp [indexOf, found]
  | index =>
    have digits : args.get? "select" = some (Nat.toDigits 10 index) := found
    obtain ⟨c, rest, same⟩ :=
      List.exists_cons_of_ne_nil (Nat.toDigits_ne_nil (n := index) (b := 10))
    have noAll := asksForAll_of_isDigit
      (isDigit_of_mem_toDigits (same ▸ List.mem_cons_self ..)) rest
    have read := parseIndex_toDigits short
    rw [same] at digits read
    simp [indexOf, digits, noAll, read]

/-- A written selection is read as itself. -/
theorem selectionOf_of_writes {args : Arguments} {selection : Selection}
    {arguments : List (String × List Char)} (writable : selection.Writable)
    (writes : WritesSelection selection arguments)
    (found : args.get? "select" = arguments.lookup "select") :
    selectionOf args = .ok selection := by
  cases writes with
  | unsaid => simp [selectionOf, found]
  | index index =>
    have digits : args.get? "select" = some (Nat.toDigits 10 index) := found
    obtain ⟨c, rest, same⟩ :=
      List.exists_cons_of_ne_nil (Nat.toDigits_ne_nil (n := index) (b := 10))
    have noAll := asksForAll_of_isDigit
      (isDigit_of_mem_toDigits (same ▸ List.mem_cons_self ..)) rest
    have read := parseIndex_toDigits writable
    rw [same] at digits read
    simp only [selectionOf, digits, noAll, read]
    rfl
  | @all word spells =>
    have value : args.get? "select" = some word := found
    have asks := asksForAll_of_spells spells []
    obtain ⟨c, rest, rfl⟩ := List.exists_cons_of_ne_nil (spells.ne_nil (by decide))
    rw [List.append_nil] at asks
    simp [selectionOf, value, asks, spells.lower_eq (by decide)]
  | @joined delimiter raw call =>
    have value : args.get? "select" = some raw := found
    have inner := betweenBrackets_of_writesCall (by decide) call
    obtain ⟨word, gap, spells, -, rfl⟩ := call
    have asks := asksForAll_of_spells spells (gap ++ '(' :: (delimiter.toList ++ [')']))
    have longer : lower (word ++ (gap ++ '(' :: (delimiter.toList ++ [')']))) ≠ "all".toList := by
      rw [spells.lower_append (by decide)]
      simpa using lowerAfter_ne_nil word.reverse (s := gap ++ '(' :: (delimiter.toList ++ [')']))
        (by simp)
    rw [← List.append_assoc] at asks longer
    obtain ⟨c, rest, same⟩ :
        ∃ c rest, word ++ gap ++ '(' :: (delimiter.toList ++ [')']) = c :: rest :=
      List.exists_cons_of_ne_nil (by simp)
    rw [same] at value inner asks longer
    simp only [selectionOf, value, asks, if_true, if_neg longer, inner]
    simp [Except.map, String.ofList_toList]

/-- A written target is read as itself. -/
theorem parseLocation_of_writes {target : Target} {value : List Char} (writable : target.Writable)
    (writes : WritesTarget target value) : parseLocation value = .ok target := by
  cases writes with
  | text spells => simp only [parseLocation, spells.lower_eq (by decide)]; rfl
  | id spells => simp only [parseLocation, spells.lower_eq (by decide)]; rfl
  | classes spells => simp only [parseLocation, spells.lower_eq (by decide)]; rfl
  | @named name inner value padded call =>
    have writable : AttributeName name.toList := writable
    have between := betweenBrackets_of_writesCall (by decide) call
    obtain ⟨word, gap, spells, -, rfl⟩ := call
    have lowered := spells.lower_append (by decide) (gap ++ '(' :: (inner ++ [')']))
    rw [← List.append_assoc] at lowered
    have noText : "attr".toList ++ lowerAfter word.reverse (gap ++ '(' :: (inner ++ [')'])) ≠
        "text".toList := fun same => absurd (congrArg List.head? same) (by simp)
    have isAttr : "attr".toList.isPrefixOf
        ("attr".toList ++ lowerAfter word.reverse (gap ++ '(' :: (inner ++ [')']))) = true :=
      List.isPrefixOf_iff_prefix.mpr (List.prefix_append _ _)
    have small : lower (trim inner) = name.toList := by
      rw [trim_of_padded writable.unpadded padded, writable.small]
    obtain ⟨c, rest, same⟩ := List.exists_cons_of_ne_nil writable.given
    have back : String.ofList (c :: rest) = name := by rw [← same, String.ofList_toList]
    rw [same] at small
    simp only [parseLocation, lowered, if_neg noText, isAttr, if_true, between]
    simp [bind, Except.bind, small, back, pure, Except.pure]

/-! ## Steps -/

private theorem required_of_get? {args : Arguments} {key : String} {value : List Char}
    (fault : Fault)
    (found : args.get? key = some value) (given : value ≠ []) :
    required args key fault = .ok value := by
  obtain ⟨c, rest, rfl⟩ := List.exists_cons_of_ne_nil given
  simp [required, found]

theorem selectorOf_of_get? {args : Arguments} {query : String}
    (found : args.get? "selector" = some query.toList) (given : query.toList ≠ []) :
    selectorOf args = .ok query := by
  rw [selectorOf, required_of_get? _ found given]
  exact congrArg Except.ok String.ofList_toList

private theorem nameOf_of_get? {args : Arguments} {name : String}
    (found : args.get? "name" = some name.toList) (given : name.toList ≠ []) :
    nameOf args = .ok name := by
  rw [nameOf, required_of_get? _ found given]
  exact congrArg Except.ok String.ofList_toList

private theorem locationOf_of_get? {args : Arguments} {target : Target} {value : List Char}
    (writable : target.Writable) (writes : WritesTarget target value)
    (found : args.get? "loc" = some value) : locationOf args = .ok target := by
  have given : value ≠ [] := by
    rintro rfl
    cases writes with
    | text spells | id spells | classes spells => exact spells.ne_nil (by decide) rfl
    | named _ call => obtain ⟨_, _, _, _, same⟩ := call; simp at same
  have required := required_of_get? .locationMissing found given
  simp only [locationOf, required]
  exact parseLocation_of_writes writable writes

/-- The keys that occur in steps are suitable, in any selection. -/
theorem suitable_of_sublist {arguments : List (String × List Char)}
    (keys : (arguments.map Prod.fst).Sublist ["name", "selector", "loc", "select"])
    (placeable : ∀ argument ∈ arguments, Placeable argument.2) : Suitable arguments where
  small := by
    have all : ∀ key ∈ ["name", "selector", "loc", "select"],
        key.toList.all Char.isLower = true := by decide
    exact fun argument member => all _ (keys.subset (List.mem_map_of_mem member))
  distinct := keys.nodup (by decide)
  placeable := placeable

/-- A written step is read with its keyword and its arguments. -/
theorem read_of_writesCommand {keyword : Keyword} {arguments : List (String × List Char)}
    {text : List Char} (given : arguments ≠ []) (suitable : Suitable arguments)
    (writes : WritesCommand keyword arguments text) :
    keyword? (trim text) = some keyword ∧
      ∃ args, stepArguments (trim text) = .ok args ∧ args.Match arguments := by
  obtain ⟨inner, command, written, call, padded⟩ := writes
  have small : keyword.spelling.toList.all Char.isLower := by cases keyword <;> decide
  have spelled : keyword.spelling.toList ≠ [] := by cases keyword <;> decide
  have trimmed : trim text = command := trim_of_padded (call.unpadded small spelled) padded
  obtain ⟨args, parsed, same⟩ := parseArguments_of_writes given suitable written
  rw [trimmed]
  constructor
  · rw [keyword?, keywordText_of_writesCall small call]
    cases keyword <;> rfl
  · refine ⟨args, ?_, same⟩
    rw [stepArguments, betweenBrackets_of_writesCall small call]
    exact parsed

private theorem WritesCommand.unbroken {keyword : Keyword} {arguments : List (String × List Char)}
    {text : List Char} (suitable : Suitable arguments)
    (writes : WritesCommand keyword arguments text) : Unbroken text := by
  obtain ⟨inner, command, written, call, padded⟩ := writes
  have small : keyword.spelling.toList.all Char.isLower := by cases keyword <;> decide
  exact (call.unbroken small (written.unbroken suitable)).padded padded

section Anchor

variable {keyword : Keyword} {anchor : Anchor} {text : List Char}

private theorem suitable_of_anchor {selection : List (String × List Char)}
    (writable : anchor.Writable)
    (writes : WritesSelection (.single anchor.index) selection) :
    Suitable (("selector", anchor.query.toList) :: selection) := by
  have inOrder : ∀ keys, keys = [] ∨ keys = ["select"] →
      ("selector" :: keys).Sublist ["name", "selector", "loc", "select"] := by
    rintro keys (rfl | rfl) <;> decide
  have writableSelection : (Selection.single anchor.index).Writable := writable.2
  refine suitable_of_sublist (inOrder _ writes.keys) ?_
  rw [List.forall_mem_cons]
  exact ⟨writable.1.placeable, placeable_of_writesSelection writableSelection writes⟩

/-- A written anchor is compiled to itself. -/
theorem compileAnchor_of_writes (writable : anchor.Writable)
    (writes : WritesAnchor keyword anchor text) :
    keyword? (trim text) = some keyword ∧ compileAnchor (trim text) = .ok anchor := by
  obtain ⟨selection, selects, command⟩ := writes
  obtain ⟨isKeyword, args, read, found⟩ := read_of_writesCommand (List.cons_ne_nil _ _)
    (suitable_of_anchor writable selects) command
  have query := selectorOf_of_get? (found "selector") writable.1.given
  have index := indexOf_of_writes writable.2 selects (found "select")
  refine ⟨isKeyword, ?_⟩
  simp only [compileAnchor, read, query, index, bind, Except.bind]
  rfl

private theorem WritesAnchor.unbroken (writable : anchor.Writable)
    (writes : WritesAnchor keyword anchor text) : Unbroken text := by
  obtain ⟨selection, selects, command⟩ := writes
  exact command.unbroken (suitable_of_anchor writable selects)

end Anchor

section Field

variable {spec : FieldSpec} {arguments : List (String × List Char)}

private theorem keys_of_field (writes : WritesField spec arguments) :
    (arguments.map Prod.fst).Sublist ["selector", "loc", "select"] := by
  obtain ⟨selection, target, selects, -, rfl⟩ := writes
  have inOrder : ∀ keys, keys = [] ∨ keys = ["select"] →
      ("selector" :: "loc" :: keys).Sublist ["selector", "loc", "select"] := by
    rintro keys (rfl | rfl) <;> decide
  exact inOrder _ selects.keys

private theorem placeable_of_field (writable : spec.Writable)
    (writes : WritesField spec arguments) : ∀ argument ∈ arguments, Placeable argument.2 := by
  obtain ⟨selection, target, selects, targets, rfl⟩ := writes
  rw [List.forall_mem_cons, List.forall_mem_cons]
  exact ⟨writable.1.placeable, placeable_of_writesTarget writable.2.2 targets,
    placeable_of_writesSelection writable.2.1 selects⟩

private theorem suitable_of_field (writable : spec.Writable) (writes : WritesField spec arguments) :
    Suitable arguments :=
  suitable_of_sublist ((keys_of_field writes).trans (by decide))
    (placeable_of_field writable writes)

private theorem suitable_of_named {name : String} (listable : Listable name.toList)
    (writable : spec.Writable) (writes : WritesField spec arguments) :
    Suitable (("name", name.toList) :: arguments) := by
  refine suitable_of_sublist ((keys_of_field writes).cons_cons "name") ?_
  rw [List.forall_mem_cons]
  exact ⟨listable.placeable, placeable_of_field writable writes⟩

/-- The arguments of a written field hold its parts. -/
theorem parts_of_writesField {args : Arguments} (writable : spec.Writable)
    (writes : WritesField spec arguments)
    (found : ∀ key ∈ ["selector", "loc", "select"], args.get? key = arguments.lookup key) :
    selectorOf args = .ok spec.destination.query ∧ locationOf args = .ok spec.target ∧
      selectionOf args = .ok spec.destination.selection := by
  obtain ⟨selection, target, selects, targets, rfl⟩ := writes
  exact ⟨selectorOf_of_get? (found "selector" (by decide)) writable.1.given,
    locationOf_of_get? writable.2.2 targets (found "loc" (by decide)),
    selectionOf_of_writes writable.2.1 selects (found "select" (by decide))⟩

end Field

/-- A written step is compiled to itself. -/
theorem compileLater_of_writes {step : Step} {text : List Char} (writable : step.Writable)
    (writes : WritesStep step text) : compileLater (trim text) = .ok step := by
  cases writes with
  | descend writes =>
    obtain ⟨isKeyword, compiled⟩ := compileAnchor_of_writes writable writes
    simp only [compileLater, isKeyword, compiled]
    rfl
  | @find spec arguments text field command =>
    have given : arguments ≠ [] := by obtain ⟨_, _, _, _, rfl⟩ := field; simp
    obtain ⟨isKeyword, args, read, found⟩ := read_of_writesCommand given
      (suitable_of_field writable field) command
    obtain ⟨query, target, selection⟩ := parts_of_writesField writable field
      fun key _ => found key
    simp only [compileLater, isKeyword, compileFind, read, query, target, selection, bind,
      Except.bind]
    rfl
  | @populate name spec arguments text field command =>
    obtain ⟨listable, writable⟩ := writable (name, spec) (List.mem_singleton_self _)
    obtain ⟨isKeyword, args, read, found⟩ := read_of_writesCommand (List.cons_ne_nil _ _)
      (suitable_of_named listable writable field) command
    have others : ∀ key ∈ ["selector", "loc", "select"],
        args.get? key = arguments.lookup key := by
      intro key member
      have differs : (key == "name") = false := by
        revert key
        decide
      rw [found key, List.lookup_cons, differs]
    obtain ⟨query, target, selection⟩ := parts_of_writesField writable field others
    have named := nameOf_of_get? (found "name") listable.given
    simp only [compileLater, isKeyword, compilePopulate, read, query, target, named, selection,
      bind, Except.bind]
    rfl

private theorem WritesStep.unbroken {step : Step} {text : List Char} (writable : step.Writable)
    (writes : WritesStep step text) : Unbroken text := by
  cases writes with
  | descend writes => exact writes.unbroken writable
  | find field command => exact command.unbroken (suitable_of_field writable field)
  | populate field command =>
    obtain ⟨listable, writable⟩ := writable _ (List.mem_singleton_self _)
    exact command.unbroken (suitable_of_named listable writable field)

/-! ## Whole paths -/

private theorem compileAll_of_writes {steps : List Step} {texts : List (List Char)}
    (writable : ∀ step ∈ steps, step.Writable) (writes : List.Forall₂ WritesStep steps texts) :
    compileAll (texts.map trim) = (steps, []) := by
  induction writes with
  | nil => rfl
  | cons written _ ih =>
    have head := compileLater_of_writes (writable _ (List.mem_cons_self ..)) written
    have tail := ih fun step member => writable step (List.mem_cons_of_mem _ member)
    rw [compileAll] at tail ⊢
    rw [List.map_cons, List.foldr_cons, tail]
    simp only [head]

private theorem unbroken_of_forall₂ {steps : List Step} {texts : List (List Char)}
    (writable : ∀ step ∈ steps, step.Writable) (writes : List.Forall₂ WritesStep steps texts) :
    ∀ text ∈ texts, Unbroken text := by
  induction writes with
  | nil => simp
  | cons written _ ih =>
    rw [List.forall_mem_cons]
    exact ⟨written.unbroken (writable _ (List.mem_cons_self ..)),
      ih fun step member => writable step (List.mem_cons_of_mem _ member)⟩

/-- Compiling the written form of a path gives the path back, and with populate steps carried out
at the end it gives the path with these gathered; there is nothing to report either way. -/
theorem compile_of_writes {path : Path} {text : String} (writable : path.Writable)
    (writes : path.Writes text) :
    compile text .inPlace = (path, []) ∧ compile text .atEnd = (path.gathered, []) := by
  cases writes with
  | @anchored start steps first rest atStart later =>
    obtain ⟨startWritable, stepsWritable⟩ := writable
    have unbroken : ∀ part ∈ first :: rest, Unbroken part := by
      rw [List.forall_mem_cons]
      exact ⟨atStart.unbroken startWritable, unbroken_of_forall₂ stepsWritable later⟩
    have split := splitAt_intercalate_pair (by decide) first rest unbroken
    have pieces : tokens (String.ofList (['-', '>'].intercalate (first :: rest))).toList =
        trim first :: rest.map trim := by
      rw [String.toList_ofList]
      exact congrArg (List.map trim) split
    obtain ⟨isStart, compiled⟩ := compileAnchor_of_writes startWritable atStart
    have compiledFirst : compileFirst (trim first) = .ok start := by
      simp only [compileFirst, isStart, compiled]
      rfl
    have compiledRest := compileAll_of_writes stepsWritable later
    constructor
    · simp only [compile, pieces, compiledRest, compiledFirst]
    · simp only [compile, pieces, compiledRest, compiledFirst, anchored_mergePopulates]

/-- Letter case, blanks, order, brackets, commas and delimiters all at once. -/
theorem compile_of_writes_mixed :
    let path : Path := .anchored ⟨"div:not(.a, .b)", 0⟩
      [.populate (.single "a(b, c)" ⟨⟨"a", .all ", (x)"⟩, .attribute "href"⟩)]
    let text := " start ( select:0 ,SELECTOR : div:not(.a, .b)  )" ++ "->" ++
      " populate(LOC:attr( href ),SELECT: aLL (, (x)),name: a(b, c), Selector: a)"
    path.Writable ∧ path.Writes text ∧
      compile text .inPlace = (path, []) ∧ compile text .atEnd = (path.gathered, []) := by
  intro path text
  have argument (key spelling value keyFront keyBack front back : String)
      (spells : Spells key spelling.toList)
      (blank : isBlankText (keyFront ++ keyBack ++ front ++ back).toList = true) :
      WritesArgument (key, value.toList)
        (keyFront ++ spelling ++ keyBack ++ ":" ++ front ++ value ++ back).toList := by
    simp only [isBlankText, String.toList_append, List.all_append, Bool.and_eq_true] at blank
    obtain ⟨⟨⟨blankKeyFront, blankKeyBack⟩, blankFront⟩, blankBack⟩ := blank
    exact ⟨_, _, _, spells, ⟨_, _, blankKeyFront, blankKeyBack, rfl⟩,
      ⟨_, _, blankFront, blankBack, rfl⟩, by simp⟩
  have start : WritesAnchor .start ⟨"div:not(.a, .b)", 0⟩
      " start ( select:0 ,SELECTOR : div:not(.a, .b)  )".toList := by
    refine ⟨_, .index 0, " select:0 ,SELECTOR : div:not(.a, .b)  ".toList,
      "start ( select:0 ,SELECTOR : div:not(.a, .b)  )".toList,
      ⟨_, _, List.Perm.swap _ _ _,
        .cons (argument "select" "select" "0" " " "" "" " " (by decide) (by decide))
          (.cons (argument "selector" "SELECTOR" "div:not(.a, .b)" "" " " " " "  " (by decide)
            (by decide)) .nil), by decide⟩,
      ⟨"start".toList, [' '], by decide, by decide, by decide⟩,
      ⟨[' '], [], by decide, by decide, by decide⟩⟩
  have field : WritesField ⟨⟨"a", .all ", (x)"⟩, .attribute "href"⟩
      [("selector", "a".toList), ("loc", "attr( href )".toList),
        ("select", "aLL (, (x))".toList)] :=
    ⟨_, _, .joined ⟨"aLL".toList, [' '], by decide, by decide, by decide⟩,
      .named ⟨[' '], [' '], by decide, by decide, rfl⟩
        ⟨"attr".toList, [], by decide, by decide, by decide⟩, rfl⟩
  have populate : WritesStep
      (.populate (.single "a(b, c)" ⟨⟨"a", .all ", (x)"⟩, .attribute "href"⟩))
      " populate(LOC:attr( href ),SELECT: aLL (, (x)),name: a(b, c), Selector: a)".toList := by
    refine .populate field
      ⟨"LOC:attr( href ),SELECT: aLL (, (x)),name: a(b, c), Selector: a".toList,
      "populate(LOC:attr( href ),SELECT: aLL (, (x)),name: a(b, c), Selector: a)".toList,
      ⟨[("loc", "attr( href )".toList), ("select", "aLL (, (x))".toList),
        ("name", "a(b, c)".toList), ("selector", "a".toList)], _, by decide,
        .cons (argument "loc" "LOC" "attr( href )" "" "" "" "" (by decide) (by decide))
          (.cons (argument "select" "SELECT" "aLL (, (x))" "" "" " " "" (by decide) (by decide))
          (.cons (argument "name" "name" "a(b, c)" "" "" " " "" (by decide) (by decide))
          (.cons (argument "selector" "Selector" "a" " " "" " " "" (by decide) (by decide))
            .nil))), by decide⟩,
      ⟨"populate".toList, [], by decide, by decide, by decide⟩,
      ⟨[' '], [], by decide, by decide, by decide⟩⟩
  have writable : path.Writable := by decide
  have writes : path.Writes text := by
    have joined : text = String.ofList (['-', '>'].intercalate [
        " start ( select:0 ,SELECTOR : div:not(.a, .b)  )".toList,
        " populate(LOC:attr( href ),SELECT: aLL (, (x)),name: a(b, c), Selector: a)".toList]) := by
      rw [← String.toList_inj, String.toList_ofList, String.toList_append, String.toList_append,
        List.intercalate_cons_cons, List.intercalate_singleton]
      rfl
    exact joined ▸ .anchored start (.cons populate .nil)
  exact ⟨writable, writes, compile_of_writes writable writes⟩

end PageHarvest.Path
