import PageHarvest.Crawl.Pool

/-! # Walking the pages of a seed

A run visits page after page. It ends when no further page is due, when there is a reason to stop,
and in an indefinite walk after a page that cannot be had or gives no record. A first page that
cannot be had ends the run without a result.
-/

namespace PageHarvest.Crawler

variable {τ : Type}

def crawlPage (crawler : Crawler τ) (around : Surroundings τ) (html : String) (page : Nat) :
    Crawling τ (List LinkOutcome) := do
  let links ← crawler.discoverLinks html
  Crawling.note .crawler .info s!"Page {page}: {links.length} links discovered"
  if links.isEmpty then return []
  if crawler.parallel then crawler.processOnPool around page links
  else crawler.processInTurn around page links

/-- Whether the walk goes on after a page, and what there is by then. -/
inductive Turn where
  | next (result : CrawlResult)
  | done (result : CrawlResult)
  deriving DecidableEq, Inhabited

/-- What there is after a page that was read. -/
def withPage (result : CrawlResult) (outcomes : List LinkOutcome) : CrawlResult where
  records := result.records ++ outcomes.filterMap LinkOutcome.record?
  failures := result.failures ++ outcomes.filterMap LinkOutcome.failure?
  pages := result.pages + 1

/-- What there is after a page that could not be had. -/
def withoutPage (result : CrawlResult) (failure : FetchFailure) (page : Nat) (url : String) :
    CrawlResult :=
  { result with failures := result.failures ++ [⟨url, failure.reason, page⟩] }

/-- Goes on after a page, except in an indefinite walk. -/
def Turn.unlessIndefinite (crawler : Crawler τ) (result : CrawlResult) : Turn :=
  if crawler.paging.mode = .indefinite then .done result else .next result

def visitDue (crawler : Crawler τ) (around : Surroundings τ) (page : Nat) (result : CrawlResult) :
    Crawling τ Turn := do
  let url := crawler.paging.url crawler.baseUrl page
  match ← crawler.stopReason around with
  | some reason =>
    Crawling.note .crawler .info s!"Crawl stopped before page {page}: {reason.message}"
    return .done result
  | none =>
    match ← Crawling.ask around url with
    | .crashed crash => throw (.crash crash)
    | .failed failure =>
      if page = 0 then throw (.seed ⟨url, failure.reason⟩)
      Crawling.note .crawler .warning s!"Page {page} unreachable: {failure.message}"
      return .unlessIndefinite crawler (withoutPage result failure page url)
    | .document html =>
      let outcomes ← crawler.crawlPage around html page
      let result := withPage result outcomes
      if crawler.paging.mode = .indefinite && (outcomes.filterMap LinkOutcome.record?).isEmpty then
        Crawling.note .crawler .info s!"Page {page} yielded no records, paging stops"
        return .done result
      return .next result

/-- Visits a page, if it is due. -/
def visit (crawler : Crawler τ) (around : Surroundings τ) (page : Nat) (result : CrawlResult) :
    Crawling τ Turn :=
  if crawler.paging.isDue page then crawler.visitDue around page result
  else return .done result

/-- Visits at most `limit` pages from a page on; none if the walk has not come to its end by
then. -/
def walk (crawler : Crawler τ) (around : Surroundings τ) :
    (limit page : Nat) → CrawlResult → Crawling τ (Option CrawlResult)
  | 0, _, _ => return none
  | limit + 1, page, result => do
    match ← crawler.visit around page result with
    | .done result => return some result
    | .next result => crawler.walk around limit (page + 1) result

def cancel : Crawling τ Unit := modify fun activity => { activity with cancelled := true }

/-- Begins a run: an earlier cancelling does not count any more, and time starts anew. -/
def start (around : Surroundings τ) : Crawling τ Unit := do
  modify fun activity => { activity with cancelled := false }
  let now ← Crawling.time around
  modify fun activity => { activity with startedAt := now }

/-- Runs over at most `limit` pages. A run that comes to its end leaves its result behind. -/
def run (crawler : Crawler τ) (around : Surroundings τ) (limit : Nat) :
    Crawling τ (Option CrawlResult) := do
  start around
  let ended ← crawler.walk around limit 0 {}
  if let some result := ended then
    modify fun activity => { activity with last := some result }
  return ended

end PageHarvest.Crawler
