import PageHarvest.Clock
import PageHarvest.Journal
import PageHarvest.Project.Folder
import PageHarvest.Text.Capital

/-! # Journal files

A run keeps its journal in a file named for the time. Only entries that matter enough are kept.
-/

namespace PageHarvest.Project

open Files

/-- What is wrong with something that was taken for a level. -/
inductive LevelFault where
  | unknown (text : String)
  /-- It is neither a number nor a text, but written like this. -/
  | neither (written : String)
  deriving DecidableEq, Inhabited

def LevelFault.message : LevelFault → String
  | .unknown text => s!"Unknown level: {Text.quoted text}"
  | .neither written => s!"Level not an integer or a valid string: {written}"

/-- What the name of a level stands for. -/
inductive LevelName where
  /-- The level from which on entries are kept. -/
  | threshold (level : Nat)
  /-- Something else than a level. -/
  | refused (fault : LevelFault)
  deriving DecidableEq, Inhabited

/-- The layout of a line, and the styles in which a layout may be written. -/
def layout : String := "%(levelname)s:%(name)s:%(message)s"

def layoutStyles : String :=
  s!"\x7b'%': (<class 'logging.PercentStyle'>, '{layout}'), " ++
    "'\x7b': (<class 'logging.StrFormatStyle'>, " ++
    "'\x7blevelname\x7d:\x7bname\x7d:\x7bmessage\x7d'), " ++
    "'$': (<class 'logging.StringTemplateStyle'>, " ++
    "'$\x7blevelname\x7d:$\x7bname\x7d:$\x7bmessage\x7d')\x7d"

def levelNames : List (String × LevelName) := [
  ("ALL", .threshold 0), ("NOTSET", .threshold 0), ("DEBUG", .threshold 10),
  ("INFO", .threshold 20), ("WARN", .threshold 30), ("WARNING", .threshold 30),
  ("ERROR", .threshold 40), ("FATAL", .threshold 50), ("CRITICAL", .threshold 50),
  ("BASIC_FORMAT", .refused (.unknown layout)), ("_STYLES", .refused (.neither layoutStyles))]

/-- The level of a name in any case; a name that is not known means that everything from debug
entries on is kept. -/
def levelOf (name : String) : LevelName :=
  (levelNames.lookup (Text.capitals name)).getD (.threshold 10)

/-- Why there is no journal file. -/
inductive LogProblem where
  | files (problem : Problem)
  | level (fault : LevelFault)
  deriving DecidableEq, Inhabited

def LogProblem.message : LogProblem → String
  | .files problem => problem.message
  | .level fault => fault.message

def logName (now : Timestamp) : String := s!"run_{now.compact}.log"

/-- An open journal file. -/
structure Log where
  place : Place
  threshold : Nat
  deriving DecidableEq, Inhabited

/-- Opens the journal file of a time. What it holds already stays in it. -/
def openLog (here : Place) (now : Timestamp) (level : String) :
    ExceptT LogProblem (StateM Tree) Log := do
  let filing {α : Type} (work : Filing α) : ExceptT LogProblem (StateM Tree) α :=
    ExceptT.adapt .files work
  if !isReady (← get) here then
    discard (filing (setUp here))
  filing (makeAt (logs · here))
  let tree ← get
  let place := logs tree here ++ [logName now]
  match levelOf level with
  | .refused fault => throw (.level fault)
  | .threshold threshold =>
    filing (append (.ofPlace tree place) "")
    return ⟨place, threshold⟩

/-- The entries that a journal file keeps. -/
def Log.keeps (log : Log) (entry : Journal.Entry) : Bool := log.threshold ≤ entry.level.number

/-- The lines that entries add to a journal file, each with a stamp in front. -/
def Log.text (log : Log) (stamp : String) (entries : List Journal.Entry) : String :=
  String.join ((entries.filter log.keeps).map fun entry => stamp ++ entry.line " - " ++ "\n")

def Log.write (log : Log) (stamp : String) (entries : List Journal.Entry) : Filing Unit := do
  append (.ofPlace (← get) log.place) (log.text stamp entries)

end PageHarvest.Project
