import PageHarvest.Validate.Issue
import PageHarvest.FieldMap

/-! # Checking data

A check gives a value or the issues of all members, in the order of the members: one unsound member
does not hide the others. Checks of members are put together with `<$>` and `<*>`.
-/

namespace PageHarvest.Validate

/-- A checked value, or everything that is wrong with it. -/
inductive Checked (α : Type) where
  | sound (value : α)
  | unsound (issues : List Issue)
  deriving DecidableEq

namespace Checked

variable {α β : Type}

/-- Applies `f` to a sound value. -/
def map (f : α → β) : Checked α → Checked β
  | .sound a => .sound (f a)
  | .unsound issues => .unsound issues

/-- Applies a checked function to a checked value; issues of both are listed. -/
def apply : Checked (α → β) → Checked α → Checked β
  | .sound f, .sound a => .sound (f a)
  | .sound _, .unsound issues => .unsound issues
  | .unsound issues, .sound _ => .unsound issues
  | .unsound issues, .unsound more => .unsound (issues ++ more)

instance : Functor Checked := ⟨map, fun a => map fun _ => a⟩

instance : Pure Checked := ⟨.sound⟩

instance : Seq Checked := ⟨fun f a => f.apply (a ())⟩

/-- A single issue at the place at hand. -/
def fail (cause : Cause) : Checked α := .unsound [⟨[], cause⟩]

/-- A further check that is only made of a sound value. -/
def andThen (checked : Checked α) (next : α → Checked β) : Checked β :=
  match checked with
  | .sound a => next a
  | .unsound issues => .unsound issues

/-- Moves the issues to a place one step deeper. -/
def under (key : Key) : Checked α → Checked α
  | .sound a => .sound a
  | .unsound issues => .unsound (issues.map fun issue => ⟨key :: issue.place, issue.cause⟩)

/-- The value, or the report on data of a named model. -/
def result (model : String) : Checked α → Except Invalid α
  | .sound a => .ok a
  | .unsound issues => .error ⟨model, issues⟩

def all (check : β → Checked α) : List β → Checked (List α)
  | [] => .sound []
  | entry :: rest => List.cons <$> check entry <*> all check rest

end Checked

abbrev Check (α : Type) := Json → Checked α

variable {α : Type}

/-- The members of an object of a named model. -/
def model (name : String) (check : List (String × Json) → Checked α) : Check α := fun json =>
  match json.members? with
  | some members => check members
  | none => .fail (.modelExpected name)

def required (members : List (String × Json)) (name : String) (check : Check α) : Checked α :=
  Checked.under (.name name) <| match members.lookup name with
    | some value => check value
    | none => .fail .missing

def optional (members : List (String × Json)) (name : String) (default : α) (check : Check α) :
    Checked α :=
  match members.lookup name with
  | some value => (check value).under (.name name)
  | none => .sound default

/-- Null, or a value that passes the check. -/
def orNull (check : Check α) : Check (Option α)
  | .null => .sound none
  | value => some <$> check value

def list (check : Check α) (otherwise : Cause := .listExpected) : Check (List α)
  | .array items =>
    Checked.all (fun (item, index) => (check item).under (.index index)) items.zipIdx
  | _ => .fail otherwise

def entryName (glyphs : List Glyph) : Checked String :=
  match Glyph.spell? glyphs with
  | some name => .sound name
  | none => ((Checked.fail .textTorn).under (.name "[key]")).under (.name (shownGlyphs glyphs))

def map (check : Check α) : Check (FieldMap α)
  | .object members =>
    FieldMap.ofList <$> Checked.all
      (fun (name, item) => Prod.mk name <$> (check item).under (.name name)) members
  | .tornObject members =>
    FieldMap.ofList <$> Checked.all
      (fun (glyphs, item) =>
        Prod.mk <$> entryName glyphs <*> (check item).under (.name (shownGlyphs glyphs))) members
  | _ => .fail .mapExpected

def word (words : List (String × α)) : Check α
  | .string s => match words.lookup s with
    | some value => .sound value
    | none => .fail (.wordExpected (words.map (·.1)))
  | _ => .fail (.wordExpected (words.map (·.1)))

/-- Data of one of several models, told apart by the member `kind`. -/
def oneOf (cases : List (String × Check α)) : Check α := fun json =>
  match json.members? with
  | some members =>
    let unknown := fun kind => Checked.fail (.kindUnknown kind (cases.map (·.1)))
    match members.lookup "kind" with
    | none => .fail .kindMissing
    | some (.string kind) => match cases.lookup kind with
      | some check => (check json).under (.name kind)
      | none => unknown kind
    | some other => unknown (shown other)
  | none => .fail .objectExpected

/-- The member `kind` may only hold the model's own name. -/
def ownKind (members : List (String × Json)) (kind : String) : Checked Unit :=
  optional members "kind" () (word [(kind, ())])

end PageHarvest.Validate
