import PageHarvest.Console.Picture
import PageHarvest.Console.Style
import PageHarvest.Console.Styled
import PageHarvest.Text.Quoted

/-! # Console markup

In markup, a tag in square brackets opens or closes a style and does not show. A backslash in front
of a tag makes it show; backslashes in front of a tag are written twice. On a console without
styles, markup comes to its plain text. A tag may also stand for an event, whose parameters are
read by a check of their own.
-/

namespace PageHarvest.Console

open Text

def beginsTag (c : Char) : Bool := ('a' ≤ c && c ≤ 'z') || c = '#' || c = '/' || c = '@'

/-- Whether a character ends the inside of what may be a tag. -/
def endsTag (c : Char) : Bool := c = ']' || c = '['

/-- The inside of a tag whose opening bracket was read, and what follows the tag. -/
def tag? : List Char → Option (List Char × List Char)
  | [] => none
  | c :: rest =>
    if beginsTag c then
      match rest.dropWhile (!endsTag ·) with
      | ']' :: after => some (c :: rest.takeWhile (!endsTag ·), after)
      | _ => none
    else none

theorem length_of_dropWhile_le {α : Type} (p : α → Bool) (s : List α) :
    (s.dropWhile p).length ≤ s.length :=
  (List.dropWhile_suffix p).length_le

theorem length_of_tag? {s inside after : List Char} (h : tag? s = some (inside, after)) :
    after.length < s.length := by
  cases s with
  | nil => simp [tag?] at h
  | cons c rest =>
    simp only [tag?] at h
    split at h
    · split at h
      · rename_i tail found
        simp only [Option.some.injEq, Prod.mk.injEq] at h
        have bound := length_of_dropWhile_le (!endsTag ·) rest
        rw [found, List.length_cons, h.2] at bound
        simp only [List.length_cons]
        omega
      · exact absurd h (by simp)
    · exact absurd h (by simp)

/-- A part of a markup text: text to show, or a tag and its position. -/
inductive Piece where
  | text (s : List Char)
  | tag (position : Nat) (inside : List Char)
  deriving DecidableEq, Inhabited

/-- Text to show, unless it is empty. -/
def Piece.ofText (s : List Char) : List Piece := if s.isEmpty then [] else [.text s]

/-- A tag after a number of backslashes: half of them show, and an odd one makes the tag show. -/
def Piece.ofTag (position slashes : Nat) (inside : List Char) : List Piece :=
  ofText (List.replicate (slashes / 2) '\\') ++
    if slashes % 2 = 1 then [.text ('[' :: inside ++ [']'])]
    else [.tag (position + slashes) inside]

/-- The pieces of a markup text from a position on, with `plain` and `slashes` backslashes read
before it. -/
def piecesFrom (position : Nat) (plain : List Char) (slashes : Nat) : List Char → List Piece
  | [] => Piece.ofText (plain ++ List.replicate slashes '\\')
  | c :: rest =>
    if c = '\\' then piecesFrom position plain (slashes + 1) rest
    else
      let kept := plain ++ List.replicate slashes '\\'
      if c = '[' then
        match _h : tag? rest with
        | some (inside, after) =>
          Piece.ofText plain ++ Piece.ofTag position slashes inside ++
            piecesFrom (position + slashes + inside.length + 2) [] 0 after
        | none => piecesFrom (position + slashes + 1) (kept ++ ['[']) 0 rest
      else piecesFrom (position + slashes + 1) (kept ++ [c]) 0 rest
termination_by s => s.length
decreasing_by
  all_goals simp_wf
  have := length_of_tag? _h
  omega

def pieces (markup : List Char) : List Piece := piecesFrom 0 [] 0 markup

/-- Why a markup text means nothing. -/
inductive MarkupFault where
  /-- A closing tag whose style is not open. -/
  | notOpen (inside : List Char) (position : Nat)
  /-- A closing tag without a name where no style is open. -/
  | nothingOpen (position : Nat)
  /-- A part of a colour cannot be read as a number. -/
  | noNumber (part : List Char)
  /-- The parameters of an event have no value. -/
  | noValue (complaint : String)
  deriving DecidableEq, Inhabited

namespace MarkupFault

def kind : MarkupFault → String
  | .noNumber _ => "ValueError"
  | _ => "MarkupError"

def message : MarkupFault → String
  | .notOpen inside position =>
    s!"closing tag '[{String.ofList inside}]' at position {position} doesn't match any open tag"
  | .nothingOpen position => s!"closing tag '[/]' at position {position} has nothing to close"
  | .noNumber part =>
    if part.length ≤ maxDigits then
      s!"invalid literal for int() with base 10: {quoted (String.ofList part)}"
    else
      s!"Exceeds the limit ({maxDigits} digits) for integer string conversion: " ++
        s!"value has {part.length} digits; use sys.set_int_max_str_digits() to increase the limit"
  | .noValue complaint => complaint

end MarkupFault

/-- An open tag: its style, the parameter behind the equals sign, and how much text was shown before
it. -/
structure OpenTag where
  style : List Char
  parameter : List Char
  start : Nat
  deriving DecidableEq

/-- Whether a tag stands for an event and not for a style. -/
def OpenTag.isEvent (tag : OpenTag) : Bool := tag.style.head? = some '@'

/-- The name in a tag, which may have a parameter behind an equals sign. -/
def tagName (inside : List Char) : List Char := inside.takeWhile (· != '=')

def tagParameter (inside : List Char) : List Char := (inside.dropWhile (· != '=')).drop 1

def shownText (s : List Char) : List Char :=
  (withPictures (substitute ['\\', '['] ['['] s)).filter (!movesCursor ·)

/-- The canonical form of the name of a style in markup. -/
def styleOf (name : List Char) : Except MarkupFault (List Char) :=
  (canonicalStyle name).mapError .noNumber

/-- The tag that a tag closes, if it closes one, and the tags that are open after it, the one opened
last first. -/
def tagStep (opened : List OpenTag) (start position : Nat) (inside : List Char) :
    Except MarkupFault (Option OpenTag × List OpenTag) :=
  match tagName inside with
  | '/' :: name =>
    let name := trim name
    if name.isEmpty then
      match opened with
      | [] => .error (.nothingOpen position)
      | tag :: rest => .ok (some tag, rest)
    else do
      let style ← styleOf name
      match opened.find? (·.style = style) with
      | some tag => .ok (some tag, opened.eraseP (·.style = style))
      | none => .error (.notOpen inside position)
  | name => do
    let style ← styleOf name
    return (none, { style, parameter := tagParameter inside, start } :: opened)

/-- What is wrong with the parameters of an event, if anything. -/
abbrev EventCheck := List Char → Option String

/-- Checks the parameters of a tag that is closed, if it is one of an event. -/
def OpenTag.checkEvent (check : EventCheck) (tag : OpenTag) : Except MarkupFault Unit :=
  if tag.isEvent && !tag.parameter.isEmpty then
    match check tag.parameter with
    | some complaint => .error (.noValue complaint)
    | none => .ok ()
  else .ok ()

/-- A text to show, and the tags that have a part of it inside. -/
structure Shown where
  text : List Char := []
  tags : List OpenTag := []
  deriving DecidableEq

/-- What pieces show behind an amount of text while tags are open. -/
def showPieces (check : EventCheck) (behind : Nat) (opened : List OpenTag) :
    List Piece → Except MarkupFault Shown
  | [] => .ok { tags := opened.filter (·.start < behind) }
  | .text s :: rest => do
    let text := shownText s
    let shown ← showPieces check (behind + text.length) opened rest
    return { shown with text := text ++ shown.text }
  | .tag position inside :: rest => do
    let (closed, opened) ← tagStep opened behind position inside
    closed.forM (OpenTag.checkEvent check)
    let shown ← showPieces check behind opened rest
    return { shown with tags := closed.toList.filter (·.start < behind) ++ shown.tags }

def shownOf (check : EventCheck) (markup : List Char) : Except MarkupFault Shown :=
  showPieces check 0 [] (pieces markup)

def OpenTag.lookUp (tag : OpenTag) : Except MarkupFault Unit :=
  (Console.lookUp tag.style tag.parameter).mapError .noNumber

def Shown.lookUp (shown : Shown) : Except MarkupFault Unit :=
  (shown.tags.reverse.mergeSort fun a b => a.start ≤ b.start).forM OpenTag.lookUp

def plainOf (check : EventCheck) (markup : List Char) : Except MarkupFault (List Char) := do
  let shown ← shownOf check markup
  shown.lookUp
  return shown.text

/-- The same text with a further backslash in front of every tag, and those before it doubled. -/
def escapeTags (slashes : Nat) : List Char → List Char
  | [] => List.replicate slashes '\\'
  | c :: rest =>
    if c = '\\' then escapeTags (slashes + 1) rest
    else if c = '[' then
      match _h : tag? rest with
      | some (inside, after) =>
        List.replicate (2 * slashes + 1) '\\' ++ '[' :: inside ++ ']' :: escapeTags 0 after
      | none => List.replicate slashes '\\' ++ '[' :: escapeTags 0 rest
    else List.replicate slashes '\\' ++ c :: escapeTags 0 rest
termination_by s => s.length
decreasing_by
  all_goals simp_wf
  have := length_of_tag? _h
  omega

/-- Markup that shows a text. A single backslash at the end is doubled, so that it does not reach
what follows. -/
def escape (text : List Char) : List Char :=
  let escaped := escapeTags 0 text
  match escaped.reverse with
  | '\\' :: '\\' :: _ => escaped
  | '\\' :: _ => escaped ++ ['\\']
  | _ => escaped

end PageHarvest.Console
