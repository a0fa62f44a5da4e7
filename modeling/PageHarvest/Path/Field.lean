import PageHarvest.Path.Compile

/-! # Field texts

A field text is either a bare selector, whose first match is read as text, or a list of arguments
that begins with `SELECTOR:` and follows the grammar of a populate step without a name; its
location may be left out.
-/

namespace PageHarvest.Path

open Text

/-- Whether a character is a spelling of a small letter; the long s is one of `s`. -/
def spells (letter c : Char) : Bool :=
  lowerChar c == letter || (letter == 's' && c.toNat == 0x17F)

/-- What follows a word in any case at the front of a text. -/
def afterWord? : List Char → List Char → Option (List Char)
  | [], s => some s
  | _ :: _, [] => none
  | letter :: word, c :: s => if spells letter c then afterWord? word s else none

/-- Whether a field text is a list of arguments: the word `selector`, blanks and a colon. -/
def isArgumentText (s : List Char) : Bool :=
  match afterWord? "selector".toList (s.dropWhile isBlank) with
  | none => false
  | some rest => (rest.dropWhile isBlank).head? == some ':'

def fieldOfArguments (args : Arguments) : Except Fault FieldSpec := do
  let query ← selectorOf args
  let selection ← selectionOf args
  let target ← if (args.get? "loc").isSome then locationOf args else pure .text
  return ⟨⟨query, selection⟩, target⟩

/-- Compiles a field text, or gives the one diagnostic that tells why it has no meaning. -/
def compileField (text : String) : Except Diagnostic FieldSpec :=
  let stripped := trim text.toList
  if isArgumentText stripped then
    (parseArguments stripped >>= fieldOfArguments).mapError (·.at stripped)
  else if stripped.isEmpty then .error (Fault.selectorMissing.at text.toList)
  else .ok ⟨⟨String.ofList stripped, .single 0⟩, .text⟩

end PageHarvest.Path
