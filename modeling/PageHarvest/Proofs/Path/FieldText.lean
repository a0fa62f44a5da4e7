import PageHarvest.Path.Field
import PageHarvest.Proofs.Path.Grammar
import PageHarvest.Proofs.Path.Splitting
import PageHarvest.Proofs.Path.Stepwise

/-! # Field texts and populate steps

A field text that lists arguments says what a populate step says with the same arguments behind its
name. The step gives its location first, and the arguments of the field text overrule it, so a field
text without a location reads text in both.
-/

namespace PageHarvest.Path

open Text

/-! ## Arguments in front of others -/

/-- What is given last is what counts. -/
theorem Arguments.get?_append (first second : Arguments) (key : String) :
    Arguments.get? (first ++ second) key = (second.get? key).or (first.get? key) := by
  rw [Arguments.get?, List.reverse_append, List.lookup_append]
  rfl

/-- What a field text reads: text, unless it gives a location. -/
def targetOf (args : Arguments) : Except Fault Target :=
  if (args.get? "loc").isSome then locationOf args else .ok .text

theorem fieldOfArguments_eq (args : Arguments) : fieldOfArguments args = (do
    let query ← selectorOf args
    let selection ← selectionOf args
    let target ← targetOf args
    return ⟨⟨query, selection⟩, target⟩) := by
  rw [fieldOfArguments, targetOf]
  cases selectorOf args with
  | error fault => rfl
  | ok query =>
    cases selectionOf args with
    | error fault => rfl
    | ok selection => cases (args.get? "loc").isSome <;> rfl

/-- The name and the location in front of the arguments of a field text. -/
def nameAndText (name : List Char) : Arguments :=
  [("name".toList, name), ("loc".toList, "TEXT".toList)]

section

variable (name : List Char) (args : Arguments)

private theorem selectorOf_nameAndText :
    selectorOf (nameAndText name ++ args) = selectorOf args := by
  have absent : (nameAndText name).get? "selector" = none := rfl
  simp only [selectorOf, required, Arguments.get?_append, absent, Option.or_none]

private theorem selectionOf_nameAndText :
    selectionOf (nameAndText name ++ args) = selectionOf args := by
  have absent : (nameAndText name).get? "select" = none := rfl
  simp only [selectionOf, Arguments.get?_append, absent, Option.or_none]

/-- The location in front counts where no other is given. -/
theorem locationOf_nameAndText : locationOf (nameAndText name ++ args) = targetOf args := by
  have text : (nameAndText name).get? "loc" = some "TEXT".toList := rfl
  simp only [targetOf, locationOf, required, Arguments.get?_append, text]
  cases args.get? "loc" with
  | none => rfl
  | some value => rfl

variable {name args}

private theorem nameOf_nameAndText (given : name ≠ []) (unnamed : args.get? "name" = none) :
    nameOf (nameAndText name ++ args) = .ok (String.ofList name) := by
  have own : (nameAndText name).get? "name" = some name := rfl
  obtain ⟨c, rest, rfl⟩ := List.exists_cons_of_ne_nil given
  simp only [nameOf, required, Arguments.get?_append, unnamed, own]
  rfl

end

/-! ## The populate step of a field text -/

/-- A text that can be the name in a step: it is trimmed, and nothing in it takes a step apart. -/
structure PlainName (name : List Char) : Prop where
  given : name ≠ []
  unpadded : Unpadded name
  unbroken : Unbroken name
  plain : ∀ c ∈ name, c ≠ '(' ∧ c ≠ ')' ∧ c ≠ ','

instance (name : List Char) : Decidable (PlainName name) :=
  decidable_of_iff
    (name ≠ [] ∧ Unpadded name ∧ Unbroken name ∧
      name.all fun c => c != '(' && c != ')' && c != ',')
    ⟨fun h => ⟨h.1, h.2.1, h.2.2.1, by simpa [and_assoc] using h.2.2.2⟩,
      fun h => ⟨h.1, h.2, h.3, by simpa [and_assoc] using h.4⟩⟩

/-- The populate step that sets a name from the arguments of a field text. -/
def populateToken (name text : List Char) : List Char :=
  "POPULATE(NAME: ".toList ++ name ++ ", LOC: TEXT, ".toList ++ text ++ [')']

/-- The path text with the populate step of a field text behind a sound start. -/
def populateText (name text : String) : String :=
  "START(SELECTOR: x) -> POPULATE(NAME: " ++ name ++ ", LOC: TEXT, " ++ text ++ ")"

private theorem populateText_eq (name text : String) :
    populateText name text = afterStart (populateToken name.toList text.toList) := by
  have token : String.ofList (populateToken name.toList text.toList) =
      "POPULATE(NAME: " ++ name ++ ", LOC: TEXT, " ++ text ++ ")" := by
    have back : ")".toList = [')'] := rfl
    apply String.toList_inj.mp
    rw [String.toList_ofList, String.toList_append, String.toList_append, String.toList_append,
      String.toList_append, back]
    unfold populateToken
    exact rfl
  have front : "START(SELECTOR: x) -> POPULATE(NAME: " =
      "START(SELECTOR: x) -> " ++ "POPULATE(NAME: " := rfl
  unfold populateText afterStart
  rw [token, front]
  simp only [String.append_assoc]

section

variable {name text : List Char}

/-- The arguments of the step stand between its first bracket and the one at its end. -/
theorem populateToken_eq (name text : List Char) : populateToken name text =
    "POPULATE".toList ++ '(' :: (("NAME: ".toList ++ name) ++
      ',' :: (" LOC: TEXT".toList ++ ',' :: (' ' :: text)) ++ [')']) := by
  have front : "POPULATE(NAME: ".toList = "POPULATE".toList ++ '(' :: "NAME: ".toList := rfl
  have middle : ", LOC: TEXT, ".toList = ',' :: (" LOC: TEXT".toList ++ [',', ' ']) := rfl
  unfold populateToken
  rw [front, middle]
  simp only [List.append_assoc, List.cons_append, List.nil_append]

private theorem keyword?_populateToken (name text : List Char) :
    keyword? (populateToken name text) = some .populate := by
  have front : keywordText (populateToken name text) = "populate".toList := by
    rw [keywordText, populateToken_eq, cut_append (by decide)]
    change lower (trim "POPULATE".toList) = "populate".toList
    decide
  rw [keyword?, front]
  rfl

/-- A populate step with a plain name is a token of its own. -/
private theorem isToken_populateToken (plain : PlainName name) (unbroken : Unbroken text) :
    IsToken (populateToken name text) where
  unbroken := by
    have named : Unbroken ("NAME:".toList ++ ' ' :: name) :=
      Unbroken.append_cons (by decide) plain.unbroken (by decide) (by decide)
    have listed : Unbroken (" LOC: TEXT".toList ++ ',' :: ([] ++ ' ' :: text)) :=
      Unbroken.append_cons (by decide)
        (Unbroken.append_cons (by decide) unbroken (by decide) (by decide)) (by decide) (by decide)
    have inner := named.append_cons listed (c := ',') (by decide) (by decide)
    have closed := inner.append_cons (by decide : Unbroken []) (c := ')') (by decide) (by decide)
    have front : Unbroken "POPULATE".toList := by decide
    have whole := front.append_cons closed (c := '(') (by decide) (by decide)
    have key : "NAME: ".toList ++ name = "NAME:".toList ++ ' ' :: name := by
      rw [show "NAME: ".toList = "NAME:".toList ++ [' '] by decide]
      simp only [List.append_assoc, List.singleton_append]
    rw [populateToken_eq, key]
    exact whole
  unpadded := by
    rw [populateToken_eq]
    constructor
    · intro c first
      obtain rfl : 'P' = c := Option.some.inj first
      decide
    · intro c last
      rw [← List.cons_append, ← List.append_assoc, List.getLast?_concat] at last
      obtain rfl : ')' = c := Option.some.inj last
      decide

private theorem parseArguments_named (plain : PlainName name) :
    parseArguments ("NAME: ".toList ++ name) = .ok [("name".toList, name)] := by
  have passes : Passes 0 ("NAME: ".toList ++ name) 0 :=
    (passes_of_all (by decide) 0).append (passes_of_plain plain.plain 0)
  have whole : "NAME: ".toList ++ name = "NAME".toList ++ ':' :: (' ' :: name) := by
    rw [show "NAME: ".toList = "NAME".toList ++ [':', ' '] from rfl, List.append_assoc]
    rfl
  have solid : isBlankText ("NAME: ".toList ++ name) = false := by
    rw [isBlankText_append]
    rfl
  have key : lower (trim "NAME".toList) = "name".toList := by decide
  have value : trim (' ' :: name) = name :=
    trim_of_padded plain.unpadded ⟨[' '], [], rfl, rfl, by simp⟩
  have read : parseArgument ("NAME: ".toList ++ name) = .ok ("name".toList, name) := by
    rw [parseArgument, whole, cut_append (by decide)]
    simp only [key, value]
  rw [parseArguments, splitArguments_of_passes passes, 
    List.filter_cons_of_pos (p := fun part => !isBlankText part) (Bool.not_eq_true' _ |>.mpr solid),
    List.filter_nil, List.mapM_cons, read]
  rfl

/-- The step is read as its name and its location, with what the field text says behind them. -/
theorem stepArguments_populateToken (plain : PlainName name) (text : List Char) :
    stepArguments (populateToken name text) =
      (parseArguments text).map (nameAndText name ++ ·) := by
  have between : betweenBrackets (populateToken name text) =
      .ok (("NAME: ".toList ++ name) ++ ',' :: (" LOC: TEXT".toList ++ ',' :: (' ' :: text))) :=
    betweenBrackets_eq_ok_iff.mpr
      ⟨_, [], populateToken_eq name text, by decide, List.not_mem_nil⟩
  have named : Passes 0 ("NAME: ".toList ++ name) 0 :=
    (passes_of_all (by decide) 0).append (passes_of_plain plain.plain 0)
  have located : Passes 0 " LOC: TEXT".toList 0 := passes_of_all (by decide) 0
  have location : parseArguments " LOC: TEXT".toList = .ok [("loc".toList, "TEXT".toList)] := by
    decide
  have padded : Padded text (' ' :: text) := ⟨[' '], [], rfl, rfl, by simp⟩
  rw [stepArguments, between]
  change parseArguments _ = _
  rw [parseArguments_comma named.foldl_eq, parseArguments_comma located.foldl_eq, location,
    parseArguments_named plain, parseArguments_of_padded padded]
  cases parseArguments text with
  | error fault => rfl
  | ok args => rfl

/-! ## Both readings -/

/-- A populate step is read as the field text of the same arguments. -/
theorem compilePopulate_populateToken (plain : PlainName name) {args : Arguments}
    (parsed : parseArguments text = .ok args) (unnamed : args.get? "name" = none) :
    (∃ spec, fieldOfArguments args = .ok spec ∧
      compilePopulate (populateToken name text) = .ok (String.ofList name, spec)) ∨
    ∃ own fault : Fault, fieldOfArguments args = .error own ∧
      compilePopulate (populateToken name text) = .error fault := by
  have read := stepArguments_populateToken plain text
  have named := nameOf_nameAndText plain.given unnamed
  rw [parsed] at read
  have work : compilePopulate (populateToken name text) = (do
      let query ← selectorOf args
      let target ← targetOf args
      let selection ← selectionOf args
      return (String.ofList name, (⟨⟨query, selection⟩, target⟩ : FieldSpec))) := by
    rw [compilePopulate, read]
    change (do
      let query ← selectorOf (nameAndText name ++ args)
      let target ← locationOf (nameAndText name ++ args)
      let own ← nameOf (nameAndText name ++ args)
      let selection ← selectionOf (nameAndText name ++ args)
      return (own, (⟨⟨query, selection⟩, target⟩ : FieldSpec))) = _
    rw [selectorOf_nameAndText, locationOf_nameAndText, selectionOf_nameAndText, named]
    rfl
  rw [work, fieldOfArguments_eq]
  cases selectorOf args with
  | error fault => exact .inr ⟨fault, fault, rfl, rfl⟩
  | ok query =>
    -- the field looks at the selection first, the step at the location
    cases selectionOf args with
    | error fault =>
      cases targetOf args with
      | error other => exact .inr ⟨fault, other, rfl, rfl⟩
      | ok target => exact .inr ⟨fault, fault, rfl, rfl⟩
    | ok selection =>
      cases targetOf args with
      | error other => exact .inr ⟨other, other, rfl, rfl⟩
      | ok target => exact .inl ⟨_, rfl, rfl⟩

end

/-! ## Whole texts -/

/-- The one step behind the start stays where it is. -/
theorem compile_afterStart_of_compileOne {token : List Char} (isToken : IsToken token)
    {steps : List Step} {diagnostics : List Diagnostic}
    (gives : compileOne token = (steps, diagnostics))
    (single : steps = [] ∨ ∃ name spec, steps = [.populate (.single name spec)])
    (placing : Placing) :
    compile (afterStart token) placing = (.anchored ⟨"x", 0⟩ steps, diagnostics) := by
  have inPlace := compile_afterStart isToken
  rw [gives] at inPlace
  cases placing with
  | inPlace => exact inPlace
  | atEnd =>
    rw [compile_atEnd, inPlace]
    rcases single with rfl | ⟨name, spec, rfl⟩
    · rfl
    · rfl

/-- What a field text that lists arguments compiles to. -/
theorem compileField_of_listed {text : String} (listed : isArgumentText (trim text.toList) = true) :
    compileField text =
      (parseArguments text.toList >>= fieldOfArguments).mapError (·.at (trim text.toList)) := by
  rw [compileField, if_pos listed, ← parseArguments_of_padded (padded_trim text.toList)]

/-- What the step of a field text adds to a path. -/
theorem compileOne_populateToken {name text : String} (plain : PlainName name.toList)
    (listed : isArgumentText (trim text.toList) = true)
    (unnamed : ∀ args, parseArguments text.toList = .ok args → args.get? "name" = none) :
    let token := populateToken name.toList text.toList
    (∃ spec, compileField text = .ok spec ∧
      compileOne token = ([.populate (.single name spec)], [])) ∨
    ∃ own, ∃ fault : Fault, compileField text = .error own ∧
      compileOne token = ([], [fault.at token]) := by
  intro token
  have later : compileLater token = (compilePopulate token).map fun set =>
      .populate (.single set.1 set.2) := by
    rw [compileLater, keyword?_populateToken]
  rw [compileField_of_listed listed, compileOne, later]
  cases parsed : parseArguments text.toList with
  | error fault =>
    have read := stepArguments_populateToken plain text.toList
    rw [parsed] at read
    have fails : compilePopulate token = .error fault := by
      rw [compilePopulate, read]
      rfl
    rw [fails]
    exact .inr ⟨_, fault, rfl, rfl⟩
  | ok args =>
    rcases compilePopulate_populateToken plain parsed (unnamed args parsed) with
      ⟨spec, field, step⟩ | ⟨own, fault, field, step⟩
    · rw [String.ofList_toList] at step
      change (∃ spec, (fieldOfArguments args).mapError _ = .ok spec ∧ _) ∨ _
      rw [field, step]
      exact .inl ⟨spec, rfl, rfl⟩
    · rw [step]
      change (∃ spec, (fieldOfArguments args).mapError _ = .ok spec ∧ _) ∨
        ∃ own, ∃ fault : Fault, (fieldOfArguments args).mapError _ = .error own ∧ _
      rw [field]
      exact .inr ⟨_, fault, rfl, rfl⟩

/-- A field text that lists arguments, none of which is a name, means what a populate step with the
same arguments means. It compiles just if the path with the step does, wherever populate steps are
carried out, and then the step sets its name to the field and nothing else. Otherwise both have a
diagnostic, and there is no field. -/
theorem compileField_agrees_populate {name text : String} (plain : PlainName name.toList)
    (unbroken : Unbroken text.toList) (listed : isArgumentText (trim text.toList) = true)
    (unnamed : ∀ args, parseArguments text.toList = .ok args → args.get? "name" = none) :
    (∀ placing, (∃ spec, compileField text = .ok spec) ↔
      (compile (populateText name text) placing).2 = []) ∧
    (∀ spec, compileField text = .ok spec → ∀ placing, compile (populateText name text) placing =
      (.anchored ⟨"x", 0⟩ [.populate (.single name spec)], [])) ∧
    ∀ own, compileField text = .error own → ∃ message, ∀ placing,
      compile (populateText name text) placing = (.anchored ⟨"x", 0⟩ [],
        [⟨String.ofList (populateToken name.toList text.toList), message⟩]) := by
  have isToken := isToken_populateToken plain unbroken
  rw [populateText_eq]
  rcases compileOne_populateToken plain listed unnamed with
    ⟨spec, field, gives⟩ | ⟨own, fault, field, gives⟩
  · have compiled := compile_afterStart_of_compileOne isToken gives (.inr ⟨_, _, rfl⟩)
    refine ⟨fun placing => ?_, ?_, ?_⟩
    · rw [compiled]
      exact iff_of_true ⟨spec, field⟩ rfl
    · intro other same
      obtain rfl := Except.ok.inj (field.symm.trans same)
      exact compiled
    · intro own fails
      cases field.symm.trans fails
  · have compiled := compile_afterStart_of_compileOne isToken gives (.inl rfl)
    refine ⟨fun placing => ?_, ?_, ?_⟩
    · rw [compiled]
      refine iff_of_false ?_ (List.cons_ne_nil _ _)
      rintro ⟨spec, succeeds⟩
      cases field.symm.trans succeeds
    · intro spec succeeds
      cases field.symm.trans succeeds
    · intro _ _
      exact ⟨fault.message, compiled⟩

/-- A comma between brackets, a location in capitals and blanks around do no harm. -/
theorem compileField_agrees_populate_joined :
    let text := " selector : a.tag , SELECT: ALL(,), LOC: ATTR( HREF )"
    let spec : FieldSpec := ⟨⟨"a.tag", .all ","⟩, .attribute "href"⟩
    PlainName "tags".toList ∧ Unbroken text.toList ∧ isArgumentText (trim text.toList) = true ∧
      (∀ args, parseArguments text.toList = .ok args → args.get? "name" = none) ∧
      compileField text = .ok spec ∧
      ∀ placing, compile (populateText "tags" text) placing =
        (.anchored ⟨"x", 0⟩ [.populate (.single "tags" spec)], []) := by
  intro text spec
  have plain : PlainName "tags".toList := by decide
  have unbroken : Unbroken text.toList := by decide +kernel
  have listed : isArgumentText (trim text.toList) = true := by decide +kernel
  have parsed : parseArguments text.toList = .ok [("selector".toList, "a.tag".toList),
      ("select".toList, "ALL(,)".toList), ("loc".toList, "ATTR( HREF )".toList)] := by
    decide +kernel
  have unnamed : ∀ args, parseArguments text.toList = .ok args → args.get? "name" = none := by
    intro args same
    obtain rfl := Except.ok.inj (parsed.symm.trans same)
    decide
  have field : compileField text = .ok spec := by decide +kernel
  exact ⟨plain, unbroken, listed, unnamed, field,
    (compileField_agrees_populate plain unbroken listed unnamed).2.1 spec field⟩

end PageHarvest.Path
