import PageHarvest.Crawl.Surroundings
import PageHarvest.Extract.Page

/-! # Reading a single page

A single populator reads one document; one that cannot be had aborts the run.
-/

namespace PageHarvest

/-- A URL and what to read there. -/
structure SinglePopulator where
  url : String
  spec : SearchSpec
  deriving DecidableEq, Inhabited

/-- Fetches and reads the document. -/
def SinglePopulator.run {τ : Type} (populator : SinglePopulator) (around : Surroundings τ) :
    Crawling τ Record := do
  match ← Crawling.ask around populator.url with
  | .crashed crash => throw (.crash crash)
  | .failed failure => throw (.fetch failure)
  | .document html =>
    let record ← Crawling.reading (harvest populator.spec (some populator.url) html)
    Crawling.note .populator .info
      s!"Populated {populator.url}: {record.fields.size} fields, {record.values.length} values"
    return record

end PageHarvest
