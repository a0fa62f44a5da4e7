import PageHarvest.Text.Integer
import PageHarvest.Text.Quoted

/-! # Faults of a selector text

A selector text is refused for its form, at a position; then it matches nothing. Pseudo-elements,
page rules, escapes beyond the last character and numbers of too many digits are a different matter:
they are understood and cannot be answered.
-/

namespace PageHarvest.Selector

/-- What is wrong with the form of a selector text. -/
inductive FormFault where
  | badAttribute
  | badClass
  | badId
  | badPseudoClass
  | badCharacter (c : Char)
  | selectorExpected
  | unmatchedClose
  | unclosed
  | lonelyCombinator (combinator : Char)
  | manyCombinators
  | lateName
  | badArguments (pseudo : String)
  | unknownPseudo (pseudo : String)
  | undefinedCustom (pseudo : String)
  deriving DecidableEq

def FormFault.message (fault : FormFault) (position : Nat) : String :=
  match fault with
  | .badAttribute => s!"Malformed attribute selector at position {position}"
  | .badClass => s!"Malformed class selector at position {position}"
  | .badId => s!"Malformed id selector at position {position}"
  | .badPseudoClass => s!"Malformed pseudo-class selector at position {position}"
  | .badCharacter c => "Invalid character " ++ Text.quoted c.toString ++ s!" position {position}"
  | .selectorExpected => s!"Expected a selector at position {position}"
  | .unmatchedClose => s!"Unmatched pseudo-class close at position {position}"
  | .unclosed => s!"Unclosed pseudo-class at position {position}"
  | .lonelyCombinator c =>
    "The combinator '" ++ c.toString ++ s!"' at position {position}, must have a selector before it"
  | .manyCombinators => s!"The multiple combinators at position {position}"
  | .lateName => s!"Tag name found at position {position} instead of at the start"
  | .badArguments pseudo => s!"Invalid syntax for pseudo class '{pseudo}'"
  | .unknownPseudo pseudo =>
    s!"'{pseudo}' was detected as a pseudo-class and is either unsupported or invalid. " ++
      "If the syntax was not intended to be recognized as a pseudo-class, please escape the colon."
  | .undefinedCustom pseudo => s!"Undefined custom selector '{pseudo}' found at position {position}"

/-- What a selector text may ask for that no query answers. -/
inductive Unsupported where
  | pseudoElement (position : Nat)
  | pageRule (position : Nat)
  | codePoint
  | tooManyDigits (count : Nat)
  deriving DecidableEq, Inhabited

/-- The wording of what is not supported. -/
def Unsupported.message : Unsupported → String
  | .pseudoElement position => s!"Pseudo-element found at position {position}"
  | .pageRule position => s!"At-rules found at position {position}"
  | .codePoint => "chr() arg not in range(0x110000)"
  | .tooManyDigits count => Text.tooManyDigits count

/-- Why a selector text has no answer. -/
inductive Fault where
  | form (fault : FormFault) (position : Nat)
  | unsupported (what : Unsupported)
  deriving DecidableEq

/-- Cuts a text into lines, each with its offset and the length of its line end. -/
def linesFrom (offset : Nat) (line : List Char) : List Char → List (Nat × List Char × Nat)
  | [] => [(offset, line.reverse, 0)]
  | '\r' :: '\n' :: rest =>
    (offset, line.reverse, 2) :: linesFrom (offset + line.length + 2) [] rest
  | c :: rest =>
    if c == '\n' || c == '\r' then
      (offset, line.reverse, 1) :: linesFrom (offset + line.length + 1) [] rest
    else linesFrom offset (c :: line) rest

/-- The lines of a text with a mark under the position, and the number of the marked line. -/
def markPosition (text : List Char) (position : Nat) : String × Nat :=
  match linesFrom 0 [] text with
  | [(_, line, _)] =>
    (String.ofList (line ++ '\n' :: List.replicate position ' ' ++ ['^']), 1)
  | lines =>
    let marked := lines.zipIdx.map fun ((offset, line, ending), number) =>
      if offset ≤ position && position < offset + line.length + ending then
        let indent := if offset + line.length < position then 2 else 3
        let blanks := List.replicate (position - offset + 1 + indent) ' '
        ("--> ".toList ++ line ++ '\n' :: blanks ++ ['^'], number + 1)
      else ("    ".toList ++ line, 0)
    (String.ofList (['\n'].intercalate (marked.map (·.1))), (marked.map (·.2)).foldl max 1)

/-- The wording of a fault of form, with the line of the selector text where it lies. -/
def FormFault.report (fault : FormFault) (text : List Char) (position : Nat) : String :=
  let (shown, line) := markPosition text position
  fault.message position ++ s!"\n  line {line}:\n" ++ shown

end PageHarvest.Selector
