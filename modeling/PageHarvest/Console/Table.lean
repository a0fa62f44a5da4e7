import PageHarvest.Console.Columns
import PageHarvest.Console.Markup
import PageHarvest.Console.Wrap

/-! # Tables

A table has a title and columns with headings. It is drawn with lines, and every column is as wide
as its widest line, as far as the console has room for it.
-/

namespace PageHarvest.Console

open Text

/-- Characters that end a line where lines are measured. -/
def endsLine (c : Char) : Bool :=
  c = '\n' || ('\x1c' ≤ c && c ≤ '\x1e') || c = '\u0085' || c = '\u2028' || c = '\u2029'

/-- The cells of the widest line of a text. -/
def widestLine (text : List Char) : Nat :=
  ((text.splitBy fun a b => !endsLine a && !endsLine b).map fun line =>
    width (line.filter (!endsLine ·))).foldl max 0

/-- A column whose cells, with the heading as the first of them, are plain text. -/
structure PlainColumn where
  alignment : Alignment
  cells : List (List Char)

def Column.shown (check : EventCheck) (column : Column) : Except MarkupFault (List Shown) :=
  column.cells.mapM (shownOf check)

def Column.plain (column : Column) (cells : List Shown) : PlainColumn :=
  ⟨column.alignment, column.heading.toList :: cells.map Shown.text⟩

/-- What the cells of columns show, row by row. -/
def byRow (columns : List (List Shown)) : List Shown :=
  (List.range ((columns.map List.length).foldl max 0)).flatMap fun n =>
    columns.filterMap (·[n]?)

def padding : Nat := 2

def PlainColumn.width (column : PlainColumn) : Nat :=
  (column.cells.map widestLine).foldl max 0 + padding

/-- The lines of a cell in a column of a width; none if there is only room for blanks. -/
def cellLines (alignment : Alignment) (size : Nat) (cell : List Char) : List (List Char) :=
  if size ≤ padding then []
  else (wrap (size - padding) .ellipsis alignment cell).map fun line =>
    ' ' :: padEnd (size - padding) line ++ [' ']

/-- The characters that draw a line of a table: at its start, along it, where columns meet, and at
its end. -/
structure Ruler where
  left : Char
  along : Char
  middle : Char
  right : Char

def topRuler : Ruler := ⟨'┏', '━', '┳', '┓'⟩

def headRuler : Ruler := ⟨'┡', '━', '╇', '┩'⟩

def rowRuler : Ruler := ⟨'├', '─', '┼', '┤'⟩

def bottomRuler : Ruler := ⟨'└', '─', '┴', '┘'⟩

/-- A line between rows. -/
def Ruler.draw (ruler : Ruler) (widths : List Nat) : List Char :=
  ruler.left :: [ruler.middle].intercalate (widths.map fun size => List.replicate size ruler.along)
    ++ [ruler.right]

/-- The lines of a row with its cells next to each other, divided by a character. -/
def rowLines (divider : Char) (widths : List Nat) (cells : List (List (List Char))) :
    List (List Char) :=
  let height := (cells.map List.length).foldl max 1
  (List.range height).map fun n =>
    let parts := (cells.zip widths).map fun (lines, size) =>
      (lines[n]?).getD (List.replicate size ' ')
    divider :: [divider].intercalate parts ++ [divider]

/-- The rows of a table whose columns have the widths given, without lines between them. -/
def rowsOf (widths : List Nat) (columns : List PlainColumn) : List (List (List (List Char))) :=
  let laid := (columns.zip widths).map fun (column, size) =>
    column.cells.map (cellLines column.alignment size)
  let count := ((columns.map (·.cells.length)).foldl max 0)
  (List.range count).map fun n => laid.map fun cells => (cells[n]?).getD []

/-- The lines of a table of plain columns on a console of a width. -/
def drawPlain (width : Nat) (table : Table) (columns : List PlainColumn) : List (List Char) :=
  let borders := columns.length + 1
  let widths := fitColumns (width - borders) (columns.map PlainColumn.width)
  let title := wrap (totalWidth widths + borders) .fold .center table.title.toList
  match rowsOf widths columns with
  | [] => title
  | heading :: rows =>
    let body := rows.map (rowLines '│' widths)
    let between := if table.ruled then [rowRuler.draw widths] else []
    title ++ [topRuler.draw widths] ++ rowLines '┃' widths heading ++
      [headRuler.draw widths] ++ between.intercalate body ++ [bottomRuler.draw widths]

/-- The lines of a table. All cells are measured before any style is looked up. -/
def Table.draw (check : EventCheck) (width : Nat) (table : Table) :
    Except MarkupFault (List (List Char)) := do
  let columns ← table.columns.mapM (Column.shown check)
  (byRow columns).forM Shown.lookUp
  return drawPlain width table (table.columns.zipWith Column.plain columns)

end PageHarvest.Console
