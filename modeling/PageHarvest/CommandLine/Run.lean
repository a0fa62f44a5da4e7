import PageHarvest.CommandLine.Arguments
import PageHarvest.Config.File
import PageHarvest.Pipeline.Run
import PageHarvest.Project.Log
import PageHarvest.Project.Output
import PageHarvest.Report.Saved

/-! # The program

The program reads a configuration file, runs it, reports on the console and saves the result. A
fault of the configuration or the seed is told on the console and makes the program end with exit
code 1.
-/

namespace PageHarvest.CommandLine

open Files Pipeline Report

/-- What the program finds when it starts. -/
structure Setting where
  /-- The place in the tree at which the program is started. -/
  here : Place
  now : Timestamp
  /-- What is written in front of every line of the journal file. -/
  stamp : String
  console : Console
  /-- How many calls there is room for while a configuration is read. -/
  room : Nat
  /-- The level of the journal file, if the environment gives one. -/
  logLevel : Option String := none
  /-- The name that the fetcher is to give itself, if the environment gives one. -/
  userAgent : Option String := none
  around : Surroundings Float
  /-- The most pages that are walked. -/
  pageLimit : Nat

/-- Why the program breaks off. -/
inductive Fault where
  | log (problem : Project.LogProblem)
  | config (fault : ConfigFault)
  | run (fault : RunFault)
  | address (fault : Url.Fault)
  | journal (problem : Problem)
  | save (fault : SaveFault)
  deriving DecidableEq

def Fault.message : Fault → String
  | .log problem => problem.message
  | .config fault => fault.message
  | .run fault => fault.message
  | .address fault => fault.message
  | .journal problem => problem.message
  | .save fault => fault.message

/-- What the user is told about a fault, if it is one of the configuration or the seed. -/
def Fault.told? : Fault → Option String
  | .config fault => if fault.isFatal then some fault.message else none
  | .run fault => if fault.isFatal then some fault.message else none
  | .log _ | .address _ | .journal _ | .save _ => none

/-- A fetcher that was asked for: how long it waits, and the name it is to give itself. -/
structure FetcherOrder where
  timeout : Float
  userAgent : Option String

/-- What the program has done so far. -/
structure State where
  tree : Tree
  progress : Progress Float := { activity := { startedAt := 0 } }
  fetcher : Option FetcherOrder := none

/-- Work of the program. -/
abbrev Program (α : Type) := ExceptT Fault (StateM State) α

variable {α : Type}

/-- Does work on the tree, whose faults are those of the program in some way. -/
def filing {ε : Type} (rename : ε → Fault) (work : ExceptT ε (StateM Tree) α) : Program α := do
  let state ← get
  let (outcome, tree) := work.run.run state.tree
  set { state with tree }
  match outcome with
  | .ok value => return value
  | .error fault => throw (rename fault)

def running (work : Running Float α) : Program (Except RunFault α) := do
  let state ← get
  let (outcome, progress) := work.run.run state.progress
  set { state with progress }
  return outcome

def say (setting : Setting) (markup : String) : Program Unit := do
  if let .error fault ← running (report (setting.console.printMarkup markup)) then
    throw (.run fault)

/-- Gives up: tells the user about a fault and gives the exit code for it, or breaks off if it is
not one to tell. -/
def giveUp (setting : Setting) (fault : Fault) : Program Nat :=
  match fault.told? with
  | some message => do
    say setting s!"[bold red]✗ {message}[/bold red]"
    return 1
  | none => throw fault

/-- The configuration with what the command line says instead; it is not checked again. -/
def Arguments.override (arguments : Arguments) (config : CrawlConfig) : CrawlConfig :=
  { config with
    parallel := config.parallel && !arguments.sequential
    workers := match arguments.workers with
      | none | some 0 => config.workers
      | some workers => workers }

/-- The configuration in the file that the command line names. -/
def Arguments.load (arguments : Arguments) (setting : Setting) (tree : Tree) :
    Except ConfigFault CrawlConfig :=
  CrawlConfig.ofFile setting.room arguments.config
    ((tree.read (.ofPath setting.here arguments.config)).map Content.bytes)

/-- Where a result is saved if the command line gives a path. -/
def destination (setting : Setting) (tree : Tree) (path base : String) :
    Except Url.Fault Location := do
  if path.isEmpty then
    return .ofPlace tree (← Project.outputFile tree setting.here base setting.now)
  else return .ofPath setting.here path

def saveResult (setting : Setting) (path base : String) (result : CrawlResult) :
    Program Unit := do
  match destination setting (← get).tree path base with
  | .error fault => throw (.address fault)
  | .ok location =>
    filing .save (save location base setting.now result)
    say setting s!"Results written to: {location.path}"

/-- Saves a result if the command line asks for it, and names the journal file; gives the exit
code. -/
def conclude (setting : Setting) (arguments : Arguments) (log : Project.Log)
    (config : CrawlConfig) (result : CrawlResult) : Program Nat := do
  if let some path := arguments.out then
    saveResult setting path config.baseUrl result
  say setting s!"[dim]Log file: {(← get).tree.path log.place}[/dim]"
  return 0

/-- Runs a configuration, keeps its journal and saves its result; gives the exit code. -/
def runConfig (setting : Setting) (arguments : Arguments) (log : Project.Log)
    (config : CrawlConfig) : Program Nat := do
  modify ({ · with fetcher := some ⟨arguments.timeout, setting.userAgent⟩ })
  let reporting := { console := setting.console, tables := arguments.tables }
  let outcome ← running (Pipeline.run config setting.around reporting setting.pageLimit)
  filing .journal (log.write setting.stamp (← get).progress.activity.journal)
  match outcome with
  | .error fault => giveUp setting (.run fault)
  | .ok result => conclude setting arguments log config result

/-- Does what the arguments say; gives the exit code. -/
def execute (setting : Setting) (arguments : Arguments) : Program Nat := do
  let log ← filing .log (Project.openLog setting.here setting.now arguments.logLevel)
  match arguments.load setting (← get).tree with
  | .error fault => giveUp setting (.config fault)
  | .ok config => runConfig setting arguments log (arguments.override config)

/-- How the program ends. -/
inductive Ending where
  | exit (code : Nat)
  /-- The user asked what the options are. -/
  | help
  | misused (misuse : Misuse)
  | broken (fault : Fault)
  deriving DecidableEq

def run (setting : Setting) (line : List String) (tree : Tree) : Ending × State :=
  match Arguments.read setting.logLevel line with
  | .error .help => (.help, { tree })
  | .error (.misused misuse) => (.misused misuse, { tree })
  | .ok arguments =>
    match (execute setting arguments).run.run { tree } with
    | (.ok code, state) => (.exit code, state)
    | (.error fault, state) => (.broken fault, state)

end PageHarvest.CommandLine
