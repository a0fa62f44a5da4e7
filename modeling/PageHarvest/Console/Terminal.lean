import PageHarvest.Console.Table

/-! # Terminals

A terminal is a console of a width that shows plain text. Parameters of events are values in a
notation of their own, of which only the brackets are looked at.
-/

namespace PageHarvest.Console

open Text

/-- Whether a character may stand in the name of the function that an event calls. -/
def isCallee (c : Char) : Bool := c.isAlphanum || c = '_' || c = '.'

/-- The value in the parameters of an event, which may have the name of a function in front. -/
def eventValue (parameter : List Char) : List Char :=
  let text := trim parameter
  match text.dropWhile isCallee with
  | [] => "()".toList
  | '(' :: rest =>
    if rest.getLast? = some ')' && !rest.contains '\n' then '(' :: rest else text
  | _ => text

/-- The round brackets that are still open behind a text. -/
def openBrackets (text : List Char) : Nat :=
  text.foldl (fun n c => if c = '(' then n + 1 else if c = ')' then n - 1 else n) 0

/-- Complains about a bracket that is never closed. -/
def checkBrackets : EventCheck := fun parameter =>
  let value := eventValue parameter
  if openBrackets value = 0 then none
  else some (s!"error parsing {quoted (String.ofList value)} in " ++
    s!"{quoted (String.ofList parameter)}; '(' was never closed")

def MarkupFault.raised (fault : MarkupFault) : Fault := ⟨fault.kind, fault.message⟩

def terminal (width : Nat) (check : EventCheck := checkBrackets) : Console where
  printMarkup markup := do
    let plain ← (plainOf check markup.toList).mapError MarkupFault.raised
    return (wrap width .fold .none plain).map String.ofList
  printTable table := do
    let lines ← (table.draw check width).mapError MarkupFault.raised
    return lines.map String.ofList
  printStyled text := (wrap width .fold .none text.plain).map String.ofList

end PageHarvest.Console
