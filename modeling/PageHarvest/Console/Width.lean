import PageHarvest.Console.WidthTable

/-! # Widths of texts

How many cells of a console a text takes. A character after a joiner takes none of its own, and
the selector of the picture form widens the character before it.
-/

namespace PageHarvest.Console

def cells (c : Char) : Nat :=
  if withoutCell.contains c then 0 else if withTwoCells.contains c then 2 else 1

/-- Joins two characters into one picture. -/
def joiner : Char := '\u200d'

/-- Asks for the picture form of a character. -/
def pictureSelector : Char := '\ufe0f'

/-- The cells of a text after a character that took some. -/
def widthAfter (last : Option Char) : List Char → Nat
  | [] => 0
  | c :: rest =>
    if c = joiner then
      match rest with
      | [] => 0
      | _ :: rest => widthAfter last rest
    else if c = pictureSelector then
      (if last.any widenedAsPicture.contains then 1 else 0) + widthAfter none rest
    else cells c + widthAfter (if cells c = 0 then last else some c) rest

def width (text : List Char) : Nat := widthAfter none text

/-- The longest beginning of a text that fits into a number of cells. -/
def fitting (room : Nat) : List Char → List Char
  | [] => []
  | c :: rest => if cells c ≤ room then c :: fitting (room - cells c) rest else []

/-- A text with blanks behind it, as far as it does not fill a number of cells. -/
def padEnd (size : Nat) (text : List Char) : List Char :=
  text ++ List.replicate (size - width text) ' '

/-- A text cut or filled up to a number of cells. -/
def setWidth (size : Nat) (text : List Char) : List Char :=
  if size = 0 then []
  else if width text ≤ size then padEnd size text
  else padEnd size (fitting size text)

end PageHarvest.Console
