import PageHarvest.Pipeline.Build
import PageHarvest.Report.Printed

/-! # Running a configuration

A configuration is built and run, and what happens is reported on a console: the diagnostics before
anything is fetched, what is about to be read, how much was read, and the records themselves if
they are asked for. What the console raises ends the run.
-/

namespace PageHarvest.Pipeline

open Report

/-- Why a run gives no result. -/
inductive RunFault where
  | build (fault : BuildFault)
  | abort (abort : Abort)
  | console (fault : Console.Fault)
  /-- The walk over pages was not at its end when the last page allowed was read. -/
  | unfinished
  deriving DecidableEq, Inhabited

/-- Whether a fault is one of the configuration or the seed, about which the user is told. -/
def RunFault.isFatal : RunFault → Bool
  | .build fault => fault != .workersRefused
  | .abort (.seed _) => true
  | _ => false

def RunFault.message : RunFault → String
  | .build fault => fault.message
  | .abort cause => cause.message
  | .console fault => fault.message
  | .unfinished => "the crawl did not come to its end"

/-- What a run has done so far. -/
structure Progress (τ : Type) where
  activity : Activity τ
  /-- The lines on the console. -/
  printed : List String := []
  /-- The diagnostics of the texts of the configuration. -/
  diagnostics : List Diagnostic := []

abbrev Running (τ α : Type) := ExceptT RunFault (StateM (Progress τ)) α

/-- How a run is reported: on which console, and whether records are printed. -/
structure Reporting where
  console : Console
  tables : Bool := false

variable {τ α : Type}

def printLines (lines : List String) : Running τ Unit :=
  modify fun progress => { progress with printed := progress.printed ++ lines }

def report (printed : Printed) : Running τ Unit :=
  match printed with
  | .ok lines => printLines lines
  | .error fault => throw (.console fault)

def crawling (work : Crawling τ α) : Running τ α := do
  let progress ← get
  let (outcome, activity) := work.runOn progress.activity
  set { progress with activity }
  match outcome with
  | .ok value => return value
  | .error abort => throw (.abort abort)

def prepare (config : CrawlConfig) (console : Console) : Running τ (Populator Float) := do
  crawling (Crawling.notes config.buildJournal)
  match config.build with
  | .error fault => throw (.build fault)
  | .ok (populator, diagnostics) =>
    modify fun progress => { progress with diagnostics }
    if !diagnostics.isEmpty then
      crawling (Crawling.note .pipeline .warning
        s!"{diagnostics.length} compile error(s) in config")
      printLines (printDiagnostics console diagnostics)
    return populator

/-- Reads the only document; one that cannot be had is an unreachable seed. -/
def runSingle (populator : SinglePopulator) (around : Surroundings τ) (console : Console) :
    Running τ CrawlResult := do
  report (console.printMarkup s!"[step]Populating {populator.url}...[/step]")
  let seedLost : Abort → Abort
    | .fetch failure => .seed ⟨populator.url, failure.reason⟩
    | abort => abort
  let record ← crawling (ExceptT.adapt seedLost (populator.run around))
  return { records := [record], pages := 1 }

/-- Crawls the documents, over at most `limit` pages. -/
def runCrawler (crawler : Crawler τ) (around : Surroundings τ) (console : Console) (limit : Nat) :
    Running τ CrawlResult := do
  report (console.printMarkup s!"[step]Crawling links of {crawler.baseUrl}...[/step]")
  match ← crawling (crawler.run around limit) with
  | some result => return result
  | none => throw .unfinished

def summary (result : CrawlResult) : String :=
  s!"[success]✓ {result.records.length} record(s)[/success] from {result.pages} page(s), " ++
    s!"[warning]{result.failures.length} failure(s)[/warning]"

/-- The values to be printed: those of a record that was read alone. -/
def valuesOf (populator : Populator Float) (result : CrawlResult) : List String :=
  match populator, result.records with
  | .single _, record :: _ => record.values
  | _, _ => []

/-- Runs a configuration over at most `limit` pages. -/
def run (config : CrawlConfig) (around : Surroundings Float) (reporting : Reporting)
    (limit : Nat) : Running Float CrawlResult := do
  let console := reporting.console
  let populator ← prepare config console
  let result ← match populator with
    | .single single => runSingle single around console
    | .crawler crawler => runCrawler crawler around console limit
  report (console.printMarkup (summary result))
  if reporting.tables then
    report (printRecords console result.records)
    report (printValues console (valuesOf populator result))
    report (printFailures console result.failures)
  return result

end PageHarvest.Pipeline
