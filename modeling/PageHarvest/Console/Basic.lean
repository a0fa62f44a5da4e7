import PageHarvest.Console.Styled

/-! # What a console is asked to print

The program hands three things to a console: markup, tables whose cells are markup, and texts that
are styled already. What the console makes of them is its own affair. Markup may be refused, styled
texts are not.
-/

namespace PageHarvest

namespace Console

/-- How lines are placed in their width. -/
inductive Alignment where
  /-- Lines are as long as they are. -/
  | none
  | left
  | right
  | center
  deriving DecidableEq, Inhabited

/-- A column: its heading, how its cells are placed, and its cells, which are markup. -/
structure Column where
  heading : String
  alignment : Alignment := .left
  cells : List (List Char)

/-- A table, with lines between its rows if they are to be kept apart. -/
structure Table where
  title : String
  columns : List Column
  ruled : Bool := false

/-- What a console raises instead of printing. -/
structure Fault where
  /-- The kind of fault as which it is raised. -/
  kind : String
  message : String
  deriving DecidableEq, Inhabited

end Console

/-- A console. -/
structure Console where
  printMarkup : String → Except Console.Fault (List String)
  printTable : Console.Table → Except Console.Fault (List String)
  printStyled : Console.Styled → List String

end PageHarvest
