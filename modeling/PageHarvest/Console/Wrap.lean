import PageHarvest.Console.Basic
import PageHarvest.Console.Width
import PageHarvest.Text.Blank
import PageHarvest.Text.Search

/-! # Lines of a console

A text is laid out in lines of a width: tabs become blanks, lines are broken between words, and
what still does not fit is broken anywhere or cut short with a mark.
-/

namespace PageHarvest.Console

open Text

/-- What becomes of words that do not fit into a line. -/
inductive Overflow where
  /-- They are broken where the line ends. -/
  | fold
  /-- They are cut, and three dots in one character stand for the rest. -/
  | ellipsis
  deriving DecidableEq, Inhabited

def tabSize : Nat := 8

/-- A line with blanks in place of tabs, from a column on. -/
def expandTabs (column : Nat) : List Char → List Char
  | [] => []
  | c :: rest =>
    if c = '\t' then
      let blanks := tabSize - column % tabSize
      List.replicate blanks ' ' ++ expandTabs (column + blanks) rest
    else c :: expandTabs (column + cells c) rest

/-- The words of a line with the blanks behind them, each with its position; blanks at the start
belong to the first word. -/
def words (position : Nat) (s : List Char) : List (Nat × List Char) :=
  let front := s.takeWhile isBlank
  let body := (s.dropWhile isBlank).takeWhile (!isBlank ·)
  let gap := ((s.dropWhile isBlank).dropWhile (!isBlank ·)).takeWhile isBlank
  let word := front ++ body ++ gap
  if _empty : body.isEmpty then []
  else (position, word) :: words (position + word.length) (s.drop word.length)
termination_by s.length
decreasing_by
  have positive : 0 < body.length := List.length_pos_iff.2 fun none => _empty (by rw [none]; rfl)
  have bound : body.length ≤ s.length :=
    Nat.le_trans (List.takeWhile_sublist _).length_le (List.dropWhile_suffix _).length_le
  have longer : body.length ≤ word.length := by simp only [word, List.length_append]; omega
  change (s.drop word.length).length < s.length
  rw [List.length_drop]
  omega

/-- A word cut into parts that fit into a width each. -/
def chop (size used : Nat) (part : List Char) : List Char → List (List Char)
  | [] => [part]
  | c :: rest =>
    if size < used + cells c then part :: chop size (cells c) [c] rest
    else chop size (used + cells c) (part ++ [c]) rest

/-- The positions at which the parts of a word begin, and the cells of the last part. -/
def foldAt (start : Nat) : List (List Char) → List Nat × Nat
  | [] => ([], 0)
  | [last] => (if start = 0 then [] else [start], width last)
  | part :: rest =>
    let (more, used) := foldAt (start + part.length) rest
    ((if start = 0 then [] else [start]) ++ more, used)

/-- The positions at which a line is broken, with `used` cells of the width taken already. -/
def breaks (size : Nat) (overflow : Overflow) (used : Nat) : List (Nat × List Char) → List Nat
  | [] => []
  | (start, word) :: rest =>
    let needed := width (dropEndWhile isBlank word)
    if used + needed ≤ size then breaks size overflow (used + width word) rest
    else if size < needed then
      match overflow with
      | .fold =>
        let (starts, used) := foldAt start (chop size 0 [] word)
        starts ++ breaks size overflow used rest
      | .ellipsis => (if start = 0 then [] else [start]) ++ breaks size overflow (width word) rest
    else if used != 0 && start != 0 then start :: breaks size overflow (width word) rest
    else breaks size overflow used rest

/-- A line cut at positions, which are counted from `position` on. -/
def divide (position : Nat) (s : List Char) : List Nat → List (List Char)
  | [] => [s]
  | cutAt :: rest => s.take (cutAt - position) :: divide cutAt (s.drop (cutAt - position)) rest

/-- A line without the blanks at its end, as far as they are beyond a size. -/
def dropExcess (size : Nat) (line : List Char) : List Char :=
  let blanks := (line.reverse.takeWhile isBlank).length
  line.take (line.length - min blanks (line.length - size))

def truncate (size : Nat) (overflow : Overflow) (line : List Char) : List Char :=
  if width line ≤ size then line
  else match overflow with
    | .fold => setWidth size line
    | .ellipsis => setWidth (size - 1) line ++ ['…']

def align (size : Nat) (overflow : Overflow) (alignment : Alignment) (line : List Char) :
    List Char :=
  let bare := truncate size overflow (dropEndWhile isBlank line)
  match alignment with
  | .none => truncate size overflow line
  | .left => padEnd size (truncate size overflow line)
  | .right => List.replicate (size - width bare) ' ' ++ bare
  | .center => padEnd size (List.replicate ((size - width bare) / 2) ' ' ++ bare)

def wrapLine (size : Nat) (overflow : Overflow) (alignment : Alignment) (line : List Char) :
    List (List Char) :=
  let line := expandTabs 0 line
  (divide 0 line (breaks size overflow 0 (words 0 line))).map fun part =>
    align size overflow alignment (dropExcess size part)

def wrap (size : Nat) (overflow : Overflow) (alignment : Alignment) (text : List Char) :
    List (List Char) :=
  (splitAt ['\n'] text).flatMap (wrapLine size overflow alignment)

end PageHarvest.Console
