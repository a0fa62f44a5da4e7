import PageHarvest.Crawl.Links
import PageHarvest.Crawl.Paging
import PageHarvest.Crawl.Surroundings
import PageHarvest.Extract.Page

/-! # Crawlers

A crawler reads the links of a page and the document behind each link. Before each link it looks
whether it has been cancelled or has run out of time; a link that is not started any more or whose
document cannot be had is a failure and not the end.
-/

namespace PageHarvest

/-- Why links are no longer started. -/
inductive StopReason where
  | cancelled
  | deadline
  deriving DecidableEq, Inhabited

def StopReason.message : StopReason → String
  | .cancelled => "cancelled"
  | .deadline => "deadline exceeded"

/-- A crawler of seeds, over times `τ`. -/
structure Crawler (τ : Type) where
  baseUrl : String
  /-- The path whose unnamed values are the links. -/
  linkPath : Path
  /-- What to read from every linked document. -/
  spec : SearchSpec
  linkFilter : Option LinkFilter := none
  paging : Paging := .seedOnly
  parallel : Bool := true
  workers : Nat := 8
  deadline : Option τ := none
  /-- Whether the outcomes of workers are put in the order of the links. -/
  preserveOrder : Bool := true
  workers_pos : 0 < workers := by decide

/-- What becomes of a link. -/
inductive LinkOutcome where
  | found (record : Record)
  | failed (failure : CrawlFailure)
  deriving DecidableEq, Inhabited

namespace LinkOutcome

/-- The record, if there is one. -/
def record? : LinkOutcome → Option Record
  | .found record => some record
  | .failed _ => none

/-- The failure, if there is one. -/
def failure? : LinkOutcome → Option CrawlFailure
  | .found _ => none
  | .failed failure => some failure

end LinkOutcome

namespace Crawler

variable {τ : Type}

/-- The words for a number of workers that no crawler can have. -/
def workersRefusal : String := "max_workers must be at least 1"

/-- Why to stop, if there is a reason. The clock is only read when there is a deadline. -/
def stopReason (crawler : Crawler τ) (around : Surroundings τ) :
    Crawling τ (Option StopReason) := do
  if ← Crawling.cancelled around then return some .cancelled
  match crawler.deadline with
  | none => return none
  | some limit =>
    let now ← Crawling.time around
    if around.exceeds (← get).startedAt now limit then return some .deadline else return none

def keep (link : String) (verdict : Verdict) : Crawling τ (List String) := do
  Crawling.notes (LinkFilter.entries link verdict)
  match verdict with
  | .follow link => return [link]
  | .crash crash => throw (.crash crash)
  | .drop | .malformed _ | .reject _ => return []

/-- The links that a filter lets through, in order. -/
def keepLinks (filter : LinkFilter) : List String → Crawling τ (List String)
  | [] => return []
  | link :: rest => do
    let kept ← keep link (filter link)
    return kept ++ (← keepLinks filter rest)

def discoverLinks (crawler : Crawler τ) (html : String) : Crawling τ (List String) := do
  let found ← Crawling.reading
    (Document.Place.engine.evaluate crawler.linkPath (Document.parse html))
  match crawler.linkFilter with
  | none => return found.values
  | some filter => keepLinks filter found.values

def fetchLink (crawler : Crawler τ) (around : Surroundings τ) (page : Nat) (link : String) :
    Crawling τ LinkOutcome := do
  match ← Crawling.ask around link with
  | .document html =>
    return .found (← Crawling.reading (harvest crawler.spec (some link) html))
  | .failed failure =>
    Crawling.note .crawler .warning s!"Link failed: {failure.message}"
    return .failed ⟨link, failure.reason, page⟩
  | .crashed crash => throw (.crash crash)

/-- The outcome of a link that is not started. -/
def abandoned (link : String) (page : Nat) (reason : StopReason) : LinkOutcome :=
  .failed ⟨link, reason.message, page⟩

def processLink (crawler : Crawler τ) (around : Surroundings τ) (page : Nat) (link : String) :
    Crawling τ LinkOutcome := do
  match ← crawler.stopReason around with
  | some reason => return abandoned link page reason
  | none => crawler.fetchLink around page link

def processInTurn (crawler : Crawler τ) (around : Surroundings τ) (page : Nat) :
    List String → Crawling τ (List LinkOutcome)
  | [] => return []
  | link :: rest => do
    let outcome ← crawler.processLink around page link
    return outcome :: (← crawler.processInTurn around page rest)

end Crawler

end PageHarvest
