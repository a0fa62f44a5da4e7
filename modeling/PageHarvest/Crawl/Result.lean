import PageHarvest.Extract.Data

/-! # Crawl results

What a crawl gives: the records of the links that were read and the links and pages that were not,
kept apart.
-/

namespace PageHarvest

open Validate

/-- A link or page that could not be processed. -/
structure CrawlFailure where
  url : String
  reason : String
  page : Int := 0
  deriving DecidableEq, Inhabited

/-- The records and failures of a crawl, and the number of pages that were processed. -/
structure CrawlResult where
  records : List Record := []
  failures : List CrawlFailure := []
  pages : Int := 0
  deriving DecidableEq, Inhabited

def CrawlResult.success (result : CrawlResult) : Bool := result.failures.isEmpty

def CrawlFailure.toJson (failure : CrawlFailure) : Json :=
  .object [("url", .string failure.url), ("reason", .string failure.reason),
    ("page", .int failure.page)]

def CrawlFailure.check : Check CrawlFailure :=
  model "CrawlFailure" fun members =>
    CrawlFailure.mk <$> required members "url" text <*> required members "reason" text <*>
      optional members "page" 0 integer

def CrawlResult.toJson (result : CrawlResult) : Json :=
  .object [("records", .array (result.records.map Record.toJson)),
    ("failures", .array (result.failures.map CrawlFailure.toJson)), ("pages", .int result.pages)]

def CrawlResult.check : Check CrawlResult :=
  model "CrawlResult" fun members =>
    CrawlResult.mk <$> optional members "records" [] (list Record.check) <*>
      optional members "failures" [] (list CrawlFailure.check) <*>
      optional members "pages" 0 integer

end PageHarvest
