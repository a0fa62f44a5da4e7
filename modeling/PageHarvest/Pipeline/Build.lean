import PageHarvest.Config.Basic
import PageHarvest.Crawl.Single
import PageHarvest.Crawl.Walk
import PageHarvest.Extract.Compile
import PageHarvest.Validate.Report

/-! # From configurations to populators

A configuration is turned into what it describes: a populator of a single page or a crawler, with
the diagnostics of all texts that were compiled on the way.
-/

namespace PageHarvest

open Validate

/-- Why a configuration describes nothing that can be run. -/
inductive BuildFault where
  | populatorUnknown (name : String)
  | linkPathMissing
  | linkPathEmpty
  | pagingRefused (extension : String) (pages : Option Nat) (invalid : Invalid)
  /-- Not a matter of configuration files, which cannot ask for so few workers. -/
  | workersRefused
  deriving DecidableEq, Inhabited

def pagingData (extension : String) (pages : Option Nat) : Json :=
  let mode := if pages.isSome then Paging.Mode.fixed else .indefinite
  .object <| [("mode", .string mode.name), ("extension", .string extension)] ++
    pages.toList.map fun n => ("pages", .nat n)

def BuildFault.message : BuildFault → String
  | .populatorUnknown name =>
    s!"Invalid populator type {Text.quoted name}. Use 'single' or 'multiple'!"
  | .linkPathMissing => "Link path must be provided for the multiple populator"
  | .linkPathEmpty => "Link path did not compile to any step"
  | .pagingRefused extension pages invalid =>
    s!"Invalid paging {Text.quoted extension}: {invalid.report (pagingData extension pages)}"
  | .workersRefused => Crawler.workersRefusal

/-- What a configuration describes, over times `τ`. -/
inductive Populator (τ : Type) where
  | single (populator : SinglePopulator)
  | crawler (crawler : Crawler τ)

/-- The kinds of populators. -/
inductive PopulatorKind where
  | single | multiple
  deriving DecidableEq, Inhabited

/-- The kind that a text names, whatever its case and the blanks around it. -/
def PopulatorKind.ofText? (text : String) : Option PopulatorKind :=
  let word := Text.lower (Text.trim text.toList)
  if word = "single".toList then some .single
  else if word = "multiple".toList then some .multiple
  else none

namespace CrawlConfig

def buildPaging (config : CrawlConfig) : Except BuildFault Paging :=
  match config.paging with
  | none => .ok .seedOnly
  | some extension =>
    let mode := match config.maxPages with
      | some _ => Paging.Mode.fixed
      | none => .indefinite
    ((Paging.checked mode extension config.maxPages).result "Paging").mapError
      (.pagingRefused extension config.maxPages)

def linkFilter (config : CrawlConfig) : LinkFilter :=
  match config.linkPrefix with
  | none | some "" => .absolutize config.baseUrl
  | some front => .prepend front

/-- The path to links, which has to have a step, and its diagnostics. -/
def buildLinkPath (config : CrawlConfig) : Except BuildFault (Path × List Diagnostic) :=
  match config.linkPath with
  | none | some "" => .error .linkPathMissing
  | some text =>
    let (path, diagnostics) := Path.compile text
    if path.isEmpty then .error .linkPathEmpty else .ok (path, diagnostics)

/-- The crawler that a configuration describes, given what to read from every document. -/
def buildCrawler (config : CrawlConfig) (spec : SearchSpec) :
    Except BuildFault (Crawler Float × List Diagnostic) := do
  let (linkPath, diagnostics) ← config.buildLinkPath
  let paging ← config.buildPaging
  if h : 0 < config.workers.toNat then
    return ({
      baseUrl := config.baseUrl, linkPath, spec, linkFilter := some config.linkFilter, paging
      parallel := config.parallel, workers := config.workers.toNat
      deadline := config.deadline, workers_pos := h }, diagnostics)
  else throw .workersRefused

/-- The populator that a configuration describes, and the diagnostics of the field texts, the path
texts and the text of the link path. -/
def build (config : CrawlConfig) : Except BuildFault (Populator Float × List Diagnostic) :=
  match PopulatorKind.ofText? config.populator with
  | none => .error (.populatorUnknown config.populator)
  | some kind =>
    let (spec, diagnostics) := SearchSpec.compile config.paths config.fields
    match kind with
    | .single => .ok (.single ⟨config.baseUrl, spec⟩, diagnostics)
    | .multiple => do
      let (crawler, more) ← config.buildCrawler spec
      return (.crawler crawler, diagnostics ++ more)

/-- What building writes to the journal: an entry per diagnostic of a path text, as far as the
texts are compiled at all. -/
def buildJournal (config : CrawlConfig) : List Journal.Entry :=
  match PopulatorKind.ofText? config.populator with
  | none => []
  | some .single => config.paths.flatMap compileJournal
  | some .multiple =>
    let linkTexts := config.linkPath.toList.filter (!·.isEmpty)
    (config.paths ++ linkTexts).flatMap compileJournal

end CrawlConfig

end PageHarvest
