import PageHarvest.CommandLine.Options
import PageHarvest.Text.Number

/-! # Arguments of the program

What a command line asks the program to do.
-/

namespace PageHarvest.CommandLine

/-- The options of the program. -/
inductive Key where
  | help | config | print | out | sequential | workers | timeout | logLevel
  deriving DecidableEq, Inhabited

def rules : List (Rule Key) := [
  { key := .help, names := ["-h", "--help"], arity := .none },
  { key := .config, names := ["--config", "-c"], required := true },
  { key := .print, names := ["--print"], arity := .none },
  { key := .out, names := ["--out"], arity := .atMostOne },
  { key := .sequential, names := ["--sequential"], arity := .none },
  { key := .workers, names := ["--workers"] },
  { key := .timeout, names := ["--timeout"] },
  { key := .logLevel, names := ["--log-level"] }]

def programName : String := "pathcrawl"

def usage : String := s!"usage: {programName} " ++ " ".intercalate (rules.map Rule.usage)

/-- What the program is asked to do. -/
structure Arguments where
  /-- The path of the configuration file. -/
  config : String := ""
  /-- Whether records are printed. -/
  tables : Bool := false
  /-- Where the result is saved; an empty path stands for a file in the folder of the program. -/
  out : Option String := none
  sequential : Bool := false
  workers : Option Int := none
  timeout : Float := 30
  logLevel : String := "INFO"

/-- Why a command line gives no arguments. -/
inductive Refusal where
  | help
  | misused (misuse : Misuse)
  deriving DecidableEq, Inhabited

def accept (arguments : Arguments) (key : Key) (value : Option String) :
    Except Refusal Arguments :=
  let text := value.getD ""
  let unreadable (title kind : String) : Refusal := .misused (.valueUnreadable title kind text)
  match key with
  | .help => .error .help
  | .config => .ok { arguments with config := text }
  | .print => .ok { arguments with tables := true }
  | .out => .ok { arguments with out := some text }
  | .sequential => .ok { arguments with sequential := true }
  | .workers => match Text.integer? text with
    | some workers => .ok { arguments with workers := some workers }
    | none => .error (unreadable "--workers" "int")
  | .timeout => match Text.float? text with
    | some timeout => .ok { arguments with timeout }
    | none => .error (unreadable "--timeout" "float")
  | .logLevel => .ok { arguments with logLevel := text }

/-- Reads a command line; the level of the journal file is taken from elsewhere if it says
nothing about it. -/
def Arguments.read (logLevel : Option String) (line : List String) : Except Refusal Arguments :=
  readLine rules accept .misused { logLevel := logLevel.getD "INFO" } line

end PageHarvest.CommandLine
