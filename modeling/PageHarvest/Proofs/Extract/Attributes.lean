import PageHarvest.Proofs.Document.Names
import PageHarvest.Proofs.Extract.Descending
import PageHarvest.Proofs.Extract.Refusal
import PageHarvest.Proofs.Path.FieldForm
import PageHarvest.Proofs.Path.RoundTrip

/-! # Attributes by either way of asking

A field that reads an attribute is made from its parts or compiled from a text. The text has its
attribute name lower-cased, the parts keep it as it is, and a document has no name with a capital
ASCII letter: so both read the same from every page if the name is lower-cased already, and with a
capital ASCII letter in it the field made from its parts never reads anything.
-/

namespace PageHarvest

open Document Text Engine PageHarvest.Path

/-! ## The text -/

namespace Path

/-- A text that can be the name of an attribute in a field text, with letters of either case. -/
structure NamesAttribute (s : List Char) : Prop extends Bracketable s where
  given : s ≠ []
  unpadded : Unpadded s

instance (s : List Char) : Decidable (NamesAttribute s) :=
  decidable_of_iff (Bracketable s ∧ s ≠ [] ∧ Unpadded s)
    ⟨fun h => ⟨h.1, h.2.1, h.2.2⟩, fun h => ⟨h.1, h.2, h.3⟩⟩

/-- The call that names an attribute in a location. -/
def attributeCall (label : String) : List Char := "ATTR".toList ++ '(' :: (label.toList ++ [')'])

/-- The field text that reads an attribute of the first match. -/
def attributeText (query label : String) : String :=
  "SELECTOR: " ++ query ++ ", LOC: ATTR(" ++ label ++ ")"

variable {query label : String}

private theorem writesCall_attributeCall (label : String) :
    WritesCall "attr" label.toList (attributeCall label) :=
  ⟨"ATTR".toList, [], by decide, rfl, rfl⟩

private theorem placeable_attributeCall (names : NamesAttribute label.toList) :
    Placeable (attributeCall label) :=
  placeable_of_writesCall (by decide) (by decide) (writesCall_attributeCall label) names.unbroken
    (names.balanced.passes 0)

/-- The arguments that the text writes. -/
def attributeArguments (query label : String) : List (String × List Char) :=
  [("selector", query.toList), ("loc", attributeCall label)]

private theorem suitable_attributeArguments (listable : Listable query.toList)
    (names : NamesAttribute label.toList) : Suitable (attributeArguments query label) where
  small := by
    have keys : ∀ key ∈ ["selector", "loc"], key.toList.all Char.isLower = true := by decide
    exact fun argument member => keys _ (List.mem_map_of_mem (f := Prod.fst) member)
  distinct := by simp [attributeArguments]
  placeable := List.forall_mem_cons.mpr
    ⟨listable.placeable, List.forall_mem_singleton.mpr (placeable_attributeCall names)⟩

private theorem attributeText_toList (query label : String) : (attributeText query label).toList =
    ("SELECTOR".toList ++ ':' :: (' ' :: query.toList)) ++
      ',' :: (" LOC".toList ++ ':' :: (' ' :: attributeCall label)) := by
  have front : "SELECTOR: ".toList = "SELECTOR".toList ++ [':', ' '] := rfl
  have middle : ", LOC: ATTR(".toList =
      ',' :: (" LOC".toList ++ ':' :: ' ' :: ("ATTR".toList ++ ['('])) := rfl
  have back : ")".toList = [')'] := rfl
  unfold attributeText attributeCall
  rw [String.toList_append, String.toList_append, String.toList_append, String.toList_append, front,
    middle, back]
  simp only [List.append_assoc, List.cons_append, List.nil_append]

private theorem writesArguments_attributeText (query label : String) :
    WritesArguments (attributeArguments query label) (attributeText query label).toList := by
  have spaced (value : List Char) : Padded value (' ' :: value) := ⟨[' '], [], rfl, rfl, by simp⟩
  have selector : Spells "selector" "SELECTOR".toList := by decide
  have loc : Spells "loc" "LOC".toList := by decide
  have selects : WritesArgument ("selector", query.toList)
      ("SELECTOR".toList ++ ':' :: (' ' :: query.toList)) :=
    ⟨"SELECTOR".toList, _, _, selector, ⟨[], [], rfl, rfl, rfl⟩, spaced _, rfl⟩
  have locates : WritesArgument ("loc", attributeCall label)
      (" LOC".toList ++ ':' :: (' ' :: attributeCall label)) :=
    ⟨"LOC".toList, _, _, loc, ⟨[' '], [], rfl, rfl, rfl⟩, spaced _, rfl⟩
  refine ⟨_, _, .refl _, .cons selects (.cons locates .nil), ?_⟩
  rw [attributeText_toList]
  simp [List.intercalate]

/-- The text of a field that reads an attribute is read by the argument grammar. -/
private theorem isArgumentText_attributeText (query label : String) :
    isArgumentText (trim (attributeText query label).toList) = true := by
  have unpadded : Unpadded (attributeText query label).toList := by
    constructor
    · intro c first
      rw [attributeText_toList] at first
      obtain rfl : 'S' = c := Option.some.inj first
      decide
    · intro c last
      have ends : ")".toList = [')'] := rfl
      rw [attributeText, String.toList_append, ends, List.getLast?_concat] at last
      obtain rfl : ')' = c := Option.some.inj last
      decide
  rw [trim_of_padded unpadded ⟨[], [], rfl, rfl, by simp⟩, isArgumentText_iff_begins]
  have key : SpellsSelector "SELECTOR".toList := .inl (by decide)
  rw [attributeText_toList, List.append_assoc]
  exact ⟨_, key, [], [], _, rfl, rfl, rfl⟩

/-- The text compiles, and its attribute name is lower-cased. -/
theorem compileField_attributeText (listable : Listable query.toList)
    (names : NamesAttribute label.toList) :
    compileField (attributeText query label) =
      .ok ⟨⟨query, .single 0⟩, .attribute (String.ofList (lower label.toList))⟩ := by
  obtain ⟨args, parsed, found⟩ := parseArguments_of_writes (List.cons_ne_nil _ _)
    (suitable_attributeArguments listable names) (writesArguments_attributeText query label)
  have selects : selectorOf args = .ok query :=
    selectorOf_of_get? (found "selector") listable.given
  have first : selectionOf args = .ok (.single 0) := by
    have unsaid : args.get? "select" = none := found "select"
    rw [selectionOf, unsaid]
  have trimmed : trim label.toList = label.toList :=
    trim_of_padded names.unpadded ⟨[], [], rfl, rfl, by simp⟩
  have located : args.get? "loc" = some (attributeCall label) := found "loc"
  have reads : targetOf args = .ok (.attribute (String.ofList (lower label.toList))) := by
    have given : trim label.toList ≠ [] := trimmed.symm ▸ names.given
    have gives := GivesTarget.named
      (looseCall_of_writesCall (writesCall_attributeCall label)) given
    rw [trimmed] at gives
    rw [targetOf, located, Option.isSome_some, if_pos rfl, locationOf_eq_ok_iff, located]
    exact gives
  rw [compileField_of_listed (isArgumentText_attributeText query label), parsed]
  change (fieldOfArguments args).mapError _ = _
  rw [fieldOfArguments_eq, selects, first, reads]
  rfl

end Path

/-! ## Reading the first match -/

section

variable {ε α β : Type} {work : Logged ε α} {refusal : Option ε} {value : α}

private theorem Logged.Settles.run_map (settles : work.Settles refusal value)
    (journal : List Journal.Entry) :
    ∃ written, ∀ f : α → β,
      (f <$> work).run.run journal = (Logged.settle refusal (f value), written) := by
  obtain ⟨written, ran⟩ := settles journal
  refine ⟨written, fun f => ?_⟩
  rw [ExceptT.run_map, StateT.run_map, ran]
  cases refusal with
  | none => rfl
  | some fault => rfl

/-- Work that is followed by either of two functions comes to the same just if they agree on its
value. -/
theorem Logged.Settles.map_eq_map_iff (settles : work.Settles refusal value) {f g : α → β} :
    f <$> work = g <$> work ↔ (refusal = none → f value = g value) := by
  constructor
  · rintro same rfl
    obtain ⟨written, ran⟩ := settles.run_map (β := β) []
    have values : Logged.settle none (f value) = (Logged.settle none (g value) : Except ε β) :=
      congrArg Prod.fst ((ran f).symm.trans (same ▸ ran g))
    exact Except.ok.inj values
  · intro agree
    refine ExceptT.ext (StateT.ext fun journal => ?_)
    obtain ⟨written, ran⟩ := settles.run_map (β := β) journal
    have values : Logged.settle refusal (f value) = Logged.settle refusal (g value) := by
      cases refusal with
      | none => exact congrArg Except.ok (agree rfl)
      | some fault => rfl
    exact (ran f).trans (values ▸ (ran g).symm)

end

/-- What is read from the first match inside a place, if there is one. -/
def Document.Place.firstValue (root : Place) (query : String) (target : Target) : String :=
  (found query root)[0]?.elim "" (read target)

section

variable (name query : String) (target : Target) (url : Option String) (html : String)

/-- A field that reads the first match makes a record of what it reads there. -/
theorem harvest_first :
    harvest (SearchSpec.withField {} name ⟨⟨query, .single 0⟩, target⟩) url html =
      (fun first : Option Place =>
        ({ url, fields := .single name (first.elim "" (Place.read target)) } : Record)) <$>
        Place.engine.nth query 0 (Document.parse html) := by
  have entries : (SearchSpec.withField {} name ⟨⟨query, .single 0⟩, target⟩).fields.entries =
    [(name, ⟨⟨query, .single 0⟩, target⟩)] := rfl
  simp only [harvest, Library.harvest, Engine.populate, entries, Engine.populateAll,
    Engine.populateField, bind_assoc, map_eq_pure_bind]
  congr
  funext first
  cases first with
  | none => rfl
  | some element => rfl

private theorem settles_first :
    (Place.engine.nth query 0 (Document.parse html)).Settles (Selector.unsupported? query)
      (Place.found query (Document.parse html))[0]? := by
  rw [← @nth_answering _ Place.found Place.read]
  exact settles_nth Place.engine_notices (Place.engine_meets query) 0 (Document.parse html)

private theorem outcome_first :
    (harvest (SearchSpec.withField {} name ⟨⟨query, .single 0⟩, target⟩) url html).outcome.1 =
      Logged.settle (Selector.unsupported? query)
        { url, fields := .single name ((Document.parse html).firstValue query target) } := by
  obtain ⟨written, ran⟩ := (settles_first query html).run_map []
  rw [harvest_first]
  exact congrArg Prod.fst (ran _)

/-- Fields that read the first match make the same of a page just if they read the same there. -/
theorem harvest_first_eq_iff (other : Target) :
    harvest (SearchSpec.withField {} name ⟨⟨query, .single 0⟩, target⟩) url html =
        harvest (SearchSpec.withField {} name ⟨⟨query, .single 0⟩, other⟩) url html ↔
      (Document.parse html).firstValue query target =
        (Document.parse html).firstValue query other := by
  rw [harvest_first, harvest_first, (settles_first query html).map_eq_map_iff]
  constructor
  · intro same
    cases refused : Selector.unsupported? query with
    | none =>
      have entries := congrArg (fun record : Record => record.fields.entries) (same refused)
      exact (Prod.mk.inj (List.cons.inj entries).1).2
    | some what =>
      -- nothing is found with a selector that no query answers
      have nothing := Place.found_of_error (Selector.unsupported?_eq_some_iff.mp refused)
      rw [Place.firstValue, Place.firstValue, nothing]
      rfl
  · intro same _
    exact congrArg (fun value => ({ url, fields := .single name value } : Record)) same

end

/-! ## Both ways -/

/-- A page's record has what the first match has under the name, for the field made from its parts,
and under the lower-cased name, for the field compiled from the text; a selector that no query
answers ends the work of both. So both make the same of a page just if these values are the same,
and of every page if the name is lower-cased already. With a capital ASCII letter in the name the
field made from its parts reads nothing anywhere. -/
theorem harvest_withAttribute {query label : String} (listable : Listable query.toList)
    (names : NamesAttribute label.toList) :
    let small := String.ofList (lower label.toList)
    ∃ field, compileField (attributeText query label) = .ok field ∧ ∀ name url html,
      let fromParts := harvest (SearchSpec.withAttribute {} name query label) url html
      let compiled := harvest (SearchSpec.withField {} name field) url html
      let value (label : String) := (Document.parse html).firstValue query (.attribute label)
      let outcome (value : String) : Except Selector.Unsupported Record :=
        Logged.settle (Selector.unsupported? query) { url, fields := .single name value }
      fromParts.outcome.1 = outcome (value label) ∧
        compiled.outcome.1 = outcome (value small) ∧
        (fromParts = compiled ↔ value label = value small) ∧
        (small = label → fromParts = compiled) ∧
        (¬ Uncapitalized label.toList → value label = "") := by
  intro small
  refine ⟨_, compileField_attributeText listable names, fun name url html => ?_⟩
  intro fromParts compiled value outcome
  have agree : fromParts = compiled ↔ value label = value small :=
    harvest_first_eq_iff name query _ url html _
  refine ⟨outcome_first name query _ url html, outcome_first name query _ url html, agree,
    fun same => agree.mpr (congrArg value same.symm), fun capital => ?_⟩
  change Option.elim _ "" _ = ""
  cases first : (Place.found query (Document.parse html))[0]? with
  | none => rfl
  | some element =>
    have inside := Place.found_within (List.mem_of_getElem? first)
    rw [Option.elim, Place.read, Place.attribute?_eq_none inside capital]
    rfl

/-- Where the first match has the attribute, a capital letter in the name makes the difference. -/
theorem harvest_withAttribute_title :
    let html := "<p Title='x'>y</p>"
    Listable "p".toList ∧ NamesAttribute "Title".toList ∧
      ∃ field, compileField (attributeText "p" "Title") = .ok field ∧
        harvest (SearchSpec.withAttribute {} "n" "p" "Title") none html ≠
          harvest (SearchSpec.withField {} "n" field) none html := by
  intro html
  have listable : Listable "p".toList := by decide
  have names : NamesAttribute "Title".toList := by decide
  obtain ⟨field, compiles, gives⟩ := harvest_withAttribute listable names
  obtain ⟨-, -, agree, -, nothing⟩ := gives "n" none html
  refine ⟨listable, names, field, compiles, fun same => ?_⟩
  have capital : ¬ Uncapitalized "Title".toList := by decide
  have reads : (Document.parse html).firstValue "p" (.attribute "title") = "x" := by
    decide +kernel
  have lowered : String.ofList (lower "Title".toList) = "title" := by decide
  have equal := agree.mp same
  rw [nothing capital, lowered] at equal
  exact absurd (equal.trans reads) (by decide)

/-- The compiled field reads what the field made from its parts misses. -/
theorem harvest_capitalAttribute :
    let html := "<html><head></head><body><p title='x'>y</p></body></html>"
    (compileField "SELECTOR: p, LOC: ATTR(TITLE)").map
        (fun field => (harvest (SearchSpec.withField {} "n" field) none html).outcome.1) =
      .ok (.ok { fields := .single "n" "x" }) ∧
    (harvest (SearchSpec.withAttribute {} "n" "p" "TITLE") none html).outcome.1 =
      .ok { fields := .single "n" "" } := by
  decide +kernel

end PageHarvest
