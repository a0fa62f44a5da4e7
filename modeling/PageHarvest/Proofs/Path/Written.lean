import PageHarvest.Path.Compile
import PageHarvest.Proofs.Path.Argument

/-! # The written form of a path

How a path is written as a text, independently of how texts are read: steps in order with `->`
between them, each a keyword with arguments in any order, in letters of either case and with any
blanks around the parts. Not every text can stand in a written path; what the texts of a path must
be like is said separately.
-/

namespace PageHarvest

open Text PageHarvest.Path

/-! ## Texts that can be written -/

namespace Path

/-- No step separator stands in the text. -/
def Unbroken (s : List Char) : Prop := ¬ ['-', '>'] <:+: s

instance (s : List Char) : Decidable (Unbroken s) := inferInstanceAs (Decidable (¬ _))

/-- A text that can stand between brackets. -/
structure Bracketable (s : List Char) : Prop where
  unbroken : Unbroken s
  balanced : Balanced s

/-- A text that can be the value of an argument as it is. -/
structure Listable (s : List Char) : Prop extends Bracketable s where
  given : s ≠ []
  unpadded : Unpadded s
  commas : CommasEnclosed s

/-- A text that can be the name of an attribute. -/
structure AttributeName (s : List Char) : Prop extends Bracketable s where
  given : s ≠ []
  unpadded : Unpadded s
  small : lower s = s

/-- A number that is short enough to be read. -/
def ShortIndex (index : Nat) : Prop := (Nat.toDigits 10 index).length ≤ 4300

instance (s : List Char) : Decidable (Bracketable s) :=
  decidable_of_iff (Unbroken s ∧ Balanced s) ⟨fun h => ⟨h.1, h.2⟩, fun h => ⟨h.1, h.2⟩⟩

instance (s : List Char) : Decidable (Listable s) :=
  decidable_of_iff (Bracketable s ∧ s ≠ [] ∧ Unpadded s ∧ CommasEnclosed s)
    ⟨fun h => ⟨h.1, h.2.1, h.2.2.1, h.2.2.2⟩, fun h => ⟨h.1, h.2, h.3, h.4⟩⟩

instance (s : List Char) : Decidable (AttributeName s) :=
  decidable_of_iff (Bracketable s ∧ s ≠ [] ∧ Unpadded s ∧ lower s = s)
    ⟨fun h => ⟨h.1, h.2.1, h.2.2.1, h.2.2.2⟩, fun h => ⟨h.1, h.2, h.3, h.4⟩⟩

instance (index : Nat) : Decidable (ShortIndex index) := Nat.decLe _ _

end Path

/-- Whether a selection can be written. -/
def Selection.Writable : Selection → Prop
  | .single index => ShortIndex index
  | .all delimiter => Bracketable delimiter.toList

/-- Whether a target can be written. -/
def Target.Writable : Target → Prop
  | .attribute name => AttributeName name.toList
  | .text | .id | .classes => True

/-- Whether an anchor can be written. -/
def Anchor.Writable (anchor : Anchor) : Prop :=
  Listable anchor.query.toList ∧ ShortIndex anchor.index

/-- Whether a field can be written. -/
def FieldSpec.Writable (spec : FieldSpec) : Prop :=
  Listable spec.destination.query.toList ∧ spec.destination.selection.Writable ∧
    spec.target.Writable

/-- Whether a step can be written. -/
def Step.Writable : Step → Prop
  | .descend anchor => anchor.Writable
  | .find spec => spec.Writable
  | .populate fields => ∀ entry ∈ fields.entries, Listable entry.1.toList ∧ entry.2.Writable

/-- Whether all parts of a path can be written. -/
def Path.Writable : Path → Prop
  | .empty => True
  | .anchored start steps => start.Writable ∧ ∀ step ∈ steps, step.Writable

instance (selection : Selection) : Decidable selection.Writable :=
  match selection with
  | .single index => inferInstanceAs (Decidable (ShortIndex index))
  | .all delimiter => inferInstanceAs (Decidable (Bracketable delimiter.toList))

instance (target : Target) : Decidable target.Writable :=
  match target with
  | .attribute name => inferInstanceAs (Decidable (AttributeName name.toList))
  | .text | .id | .classes => inferInstanceAs (Decidable True)

instance (anchor : Anchor) : Decidable anchor.Writable := inferInstanceAs (Decidable (_ ∧ _))

instance (spec : FieldSpec) : Decidable spec.Writable := inferInstanceAs (Decidable (_ ∧ _ ∧ _))

instance (step : Step) : Decidable step.Writable :=
  match step with
  | .descend anchor => inferInstanceAs (Decidable anchor.Writable)
  | .find spec => inferInstanceAs (Decidable spec.Writable)
  | .populate fields => inferInstanceAs
      (Decidable (∀ entry ∈ fields.entries, Listable entry.1.toList ∧ entry.2.Writable))

instance (path : Path) : Decidable path.Writable :=
  match path with
  | .empty => inferInstanceAs (Decidable True)
  | .anchored start steps =>
    inferInstanceAs (Decidable (start.Writable ∧ ∀ step ∈ steps, step.Writable))

/-! ## Writing -/

namespace Path

/-- A word and something between brackets behind it: `WORD(inner)`. -/
def WritesCall (word : String) (inner text : List Char) : Prop :=
  ∃ spelling gap, Spells word spelling ∧ isBlankText gap = true ∧
    text = spelling ++ gap ++ '(' :: (inner ++ [')'])

/-- One argument: `KEY: value`. -/
def WritesArgument (argument : String × List Char) (text : List Char) : Prop :=
  ∃ spelling key value, Spells argument.1 spelling ∧ Padded spelling key ∧
    Padded argument.2 value ∧ text = key ++ ':' :: value

/-- Arguments in any order with commas between them. -/
def WritesArguments (arguments : List (String × List Char)) (text : List Char) : Prop :=
  ∃ ordered parts, ordered.Perm arguments ∧ List.Forall₂ WritesArgument ordered parts ∧
    text = [','].intercalate parts

/-- A step with its keyword and arguments. -/
def WritesCommand (keyword : Keyword) (arguments : List (String × List Char)) (text : List Char) :
    Prop :=
  ∃ inner command, WritesArguments arguments inner ∧
    WritesCall keyword.spelling inner command ∧ Padded command text

/-- The arguments that say which matches are taken; the first one may go unsaid. -/
inductive WritesSelection : Selection → List (String × List Char) → Prop
  | unsaid : WritesSelection (.single 0) []
  | index (index : Nat) : WritesSelection (.single index) [("select", Nat.toDigits 10 index)]
  | all {word : List Char} (spells : Spells "all" word) :
      WritesSelection (.all "") [("select", word)]
  | joined {delimiter : String} {value : List Char}
      (call : WritesCall "all" delimiter.toList value) :
      WritesSelection (.all delimiter) [("select", value)]

/-- The value that says what is read. -/
inductive WritesTarget : Target → List Char → Prop
  | text {word : List Char} (spells : Spells "text" word) : WritesTarget .text word
  | id {word : List Char} (spells : Spells "id" word) : WritesTarget .id word
  | classes {word : List Char} (spells : Spells "class" word) : WritesTarget .classes word
  | named {name : String} {inner value : List Char} (padded : Padded name.toList inner)
      (call : WritesCall "attr" inner value) : WritesTarget (.attribute name) value

/-- A step that moves to an anchor. -/
def WritesAnchor (keyword : Keyword) (anchor : Anchor) (text : List Char) : Prop :=
  ∃ selection, WritesSelection (.single anchor.index) selection ∧
    WritesCommand keyword (("selector", anchor.query.toList) :: selection) text

/-- The arguments of a field. -/
def WritesField (spec : FieldSpec) (arguments : List (String × List Char)) : Prop :=
  ∃ selection target, WritesSelection spec.destination.selection selection ∧
    WritesTarget spec.target target ∧
    arguments = ("selector", spec.destination.query.toList) :: ("loc", target) :: selection

/-- A step after the first; a populate step sets one name. -/
inductive WritesStep : Step → List Char → Prop
  | descend {anchor : Anchor} {text : List Char} (writes : WritesAnchor .descend anchor text) :
      WritesStep (.descend anchor) text
  | find {spec : FieldSpec} {arguments : List (String × List Char)} {text : List Char}
      (field : WritesField spec arguments) (command : WritesCommand .find arguments text) :
      WritesStep (.find spec) text
  | populate {name : String} {spec : FieldSpec} {arguments : List (String × List Char)}
      {text : List Char} (field : WritesField spec arguments)
      (command : WritesCommand .populate (("name", name.toList) :: arguments) text) :
      WritesStep (.populate (.single name spec)) text

/-- A path: its start and its steps in order. -/
inductive Writes : Path → String → Prop
  | anchored {start : Anchor} {steps : List Step} {first : List Char} {rest : List (List Char)}
      (atStart : WritesAnchor .start start first) (later : List.Forall₂ WritesStep steps rest) :
      Writes (.anchored start steps) (String.ofList (['-', '>'].intercalate (first :: rest)))

end Path

end PageHarvest
