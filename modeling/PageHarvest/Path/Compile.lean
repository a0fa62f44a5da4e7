import PageHarvest.Journal
import PageHarvest.Text.Integer
import PageHarvest.Text.Quoted
import PageHarvest.Path.Argument
import PageHarvest.Path.Basic

/-! # Compiling path texts

A path text is a chain of steps such as

    START(SELECTOR: div.item) -> POPULATE(NAME: title, SELECTOR: a, LOC: TEXT)
      -> FIND(SELECTOR: a, SELECT: ALL(|), LOC: ATTR(href))

Keywords and keys may be written in any case. Steps are compiled one by one: a step adds itself to
the path or one diagnostic to the list, and never touches its neighbours. A text without a sound
start compiles to the empty path. `compileField` reads a single field text, which is a bare
selector or a list of arguments.
-/

namespace PageHarvest.Path

open Text

def stepSeparator : List Char := "->".toList

/-- The words a step may begin with. -/
inductive Keyword where
  | start | descend | find | populate
  deriving DecidableEq, Inhabited

/-- The small-letter spelling of a keyword. -/
def Keyword.spelling : Keyword → String
  | .start => "start"
  | .descend => "descend"
  | .find => "find"
  | .populate => "populate"

/-- The trimmed, lower-cased text before the first opening bracket. -/
def keywordText (token : List Char) : List Char :=
  lower (trim (((cut ['('] token).map Prod.fst).getD token))

def keyword? (token : List Char) : Option Keyword :=
  [Keyword.start, .descend, .find, .populate].find? fun k => k.spelling.toList == keywordText token

/-- A value that must be given and not be empty. -/
def required (args : Arguments) (key : String) (fault : Fault) : Except Fault (List Char) :=
  match args.get? key with
  | none | some [] => .error fault
  | some value => .ok value

def selectorOf (args : Arguments) : Except Fault String :=
  (required args "selector" .selectorMissing).map String.ofList

def nameOf (args : Arguments) : Except Fault String :=
  (required args "name" .nameMissing).map String.ofList

/-- A position: a whole number that is not negative. -/
def parseIndex (raw : List Char) : Except Fault Nat :=
  match readInteger? raw with
  | none => .error .numberInvalid
  | some (.ofNat index) => .ok index
  | some (.negSucc _) => .error .numberNegative

def asksForAll (raw : List Char) : Bool :=
  "all".toList.isPrefixOf (lower raw)

/-- The match a moving step takes, the first one unless `SELECT` says otherwise. -/
def indexOf (args : Arguments) : Except Fault Nat :=
  match args.get? "select" with
  | none | some [] => .ok 0
  | some raw => if asksForAll raw then .error .allRefused else parseIndex raw

/-- The matches a reading step takes. `ALL` may carry a delimiter in brackets. -/
def selectionOf (args : Arguments) : Except Fault Selection :=
  match args.get? "select" with
  | none | some [] => .ok (.single 0)
  | some raw =>
    if asksForAll raw then
      if lower raw = "all".toList then .ok (.all "")
      else (betweenBrackets raw).map fun delimiter => .all (String.ofList delimiter)
    else (parseIndex raw).map .single

/-- What a location text reads. Attribute names are lower-cased, as documents have them. -/
def parseLocation (raw : List Char) : Except Fault Target := do
  let word := lower raw
  if word = "text".toList then return .text
  if "attr".toList.isPrefixOf word then
    match lower (trim (← betweenBrackets raw)) with
    | [] => throw .attributeMissing
    | name => return .attribute (String.ofList name)
  if word = "id".toList then return .id
  if word = "class".toList then return .classes
  throw .locationInvalid

def locationOf (args : Arguments) : Except Fault Target := do
  parseLocation (← required args "loc" .locationMissing)

def compileAnchor (token : List Char) : Except Fault Anchor := do
  let args ← stepArguments token
  let query ← selectorOf args
  return ⟨query, ← indexOf args⟩

/-- What a find step collects. -/
def compileFind (token : List Char) : Except Fault FieldSpec := do
  let args ← stepArguments token
  let query ← selectorOf args
  let target ← locationOf args
  return ⟨⟨query, ← selectionOf args⟩, target⟩

/-- The name a populate step sets, and what it reads. -/
def compilePopulate (token : List Char) : Except Fault (String × FieldSpec) := do
  let args ← stepArguments token
  let query ← selectorOf args
  let target ← locationOf args
  let name ← nameOf args
  return (name, ⟨⟨query, ← selectionOf args⟩, target⟩)

/-- A step after the first; a populate step sets one name. -/
def compileLater (token : List Char) : Except Fault Step :=
  match keyword? token with
  | some .descend => (compileAnchor token).map .descend
  | some .find => (compileFind token).map .find
  | some .populate => (compilePopulate token).map fun (name, spec) => .populate (.single name spec)
  | some .start => .error .startRepeated
  | none => .error .keywordUnknown

/-- The steps and the diagnostics of the tokens after the first. -/
def compileAll (tokens : List (List Char)) : List Step × List Diagnostic :=
  tokens.foldr (fun token (steps, diagnostics) =>
    match compileLater token with
    | .ok step => (step :: steps, diagnostics)
    | .error fault => (steps, fault.at token :: diagnostics)) ([], [])

/-- The first token of a text: its anchor, or what is wrong with it. A later step in first place
is compiled all the same for what else is wrong. -/
def compileFirst (token : List Char) : Except (List Diagnostic) Anchor :=
  match keyword? token with
  | some .start => (compileAnchor token).mapError fun fault => [fault.at token]
  | none => .error [Fault.startExpected.at token]
  | some _ => .error (Fault.startExpected.at token :: (compileAll [token]).2)

def tokens (text : List Char) : List (List Char) :=
  (splitAt stepSeparator text).map trim

/-- Where the populate steps of a text are carried out. -/
inductive Placing where
  /-- As a single step after all others. -/
  | atEnd
  /-- Each at its own place. -/
  | inPlace
  deriving DecidableEq, Inhabited

/-- All names that the populate steps set, a later step overwriting an earlier one. -/
def populated (steps : List Step) : FieldMap FieldSpec :=
  steps.foldl (fun fields step => match step with
    | .populate more => fields.merge more
    | _ => fields) .empty

def isPopulate : Step → Bool
  | .populate _ => true
  | _ => false

/-- The steps with all populate steps merged into one at the end. -/
def mergePopulates (steps : List Step) : List Step :=
  let merged := populated steps
  steps.filter (!isPopulate ·) ++ if merged.isEmpty then [] else [.populate merged]

/-- Compiles a path text to a path and the diagnostics in text order. -/
def compile (text : String) (placing : Placing := .atEnd) : Path × List Diagnostic :=
  match tokens text.toList with
  | [] => (.empty, [])
  | first :: rest =>
    let (steps, diagnostics) := compileAll rest
    match compileFirst first with
    | .error broken => (.empty, broken ++ diagnostics)
    | .ok start => match placing with
      | .inPlace => (.anchored start steps, diagnostics)
      | .atEnd => (.anchored start (mergePopulates steps), diagnostics)

/-- What compiling a text writes to the journal: an entry per diagnostic. -/
def compileEntries (text : String) (diagnostics : List Diagnostic) : List Journal.Entry :=
  diagnostics.map fun d =>
    ⟨.compiler, .debug, "Compile error in " ++ quoted text ++ ": " ++ d.text⟩

/-- Why a text that must be free of diagnostics was refused. -/
structure Refusal where
  text : String
  diagnostics : List Diagnostic
  deriving DecidableEq

def Refusal.message (refusal : Refusal) : String :=
  s!"Path has {refusal.diagnostics.length} error(s): " ++
    String.intercalate "; " (refusal.diagnostics.map Diagnostic.text)

/-- Compiles a text that must not have any diagnostics. -/
def compileStrict (text : String) (placing : Placing := .atEnd) : Except Refusal Path :=
  match compile text placing with
  | (path, []) => .ok path
  | (_, diagnostics) => .error ⟨text, diagnostics⟩

end PageHarvest.Path
