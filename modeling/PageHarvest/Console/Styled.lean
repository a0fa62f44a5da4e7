import PageHarvest.Path.Fault

/-! # Styled text

A text with styled stretches. Characters that would move the cursor are never taken in.
-/

namespace PageHarvest.Console

/-- A stretch of text, from `start` up to but not including `stop`, and its style. -/
structure Span where
  start : Nat
  stop : Nat
  style : String
  deriving DecidableEq

/-- A text and its styled stretches. -/
structure Styled where
  plain : List Char := []
  spans : List Span := []
  deriving DecidableEq

/-- Bell, backspace, vertical tab, form feed and carriage return. -/
def movesCursor (c : Char) : Bool :=
  [7, 8, 11, 12, 13].contains c.toNat

/-- Adds a text at the end, styled if a style is given. -/
def Styled.append (s : Styled) (text : List Char) (style : Option String := none) : Styled :=
  let kept := text.filter (!movesCursor ·)
  let start := s.plain.length
  { plain := s.plain ++ kept
    spans := match style with
      | some style =>
        if text.isEmpty then s.spans else s.spans ++ [⟨start, start + kept.length, style⟩]
      | none => s.spans }

def ofDiagnostic (d : Diagnostic) : Styled :=
  let step := d.step.toList
  Styled.append {} "error".toList (some "bold red")
    |>.append (": ".toList ++ d.message.toList ++ ['\n'])
    |>.append (step ++ ['\n'])
    |>.append (List.replicate (max step.length 1) '^') (some "red")

end PageHarvest.Console
