import PageHarvest.Clock
import PageHarvest.Crawl.Result
import PageHarvest.Files.Tree
import PageHarvest.Json.Writer

/-! # Saved results

A result is saved as JSON together with the address it comes from and the time. A number of pages
with too many digits ends the work, and then the file holds what was put down before it.
-/

namespace PageHarvest.Report

open Files

def saved (base : String) (now : Timestamp) (result : CrawlResult) : Json :=
  .object [
    ("base_url", .string base),
    ("extracted_at", .string now.iso),
    ("pages", .int result.pages),
    ("records", .array (result.records.map Record.toJson)),
    ("failures", .array (result.failures.map CrawlFailure.toJson))]

def savedText (base : String) (now : Timestamp) (result : CrawlResult) : String :=
  (saved base now result).indented

/-- Keeps a text in a file, making the folders on the way. -/
def keep (location : Location) (text : String) : Filing Unit := do
  if let some folder := location.folder? then
    makeFolder .below folder
  write location text

/-- Why a result is not saved. -/
inductive SaveFault where
  | files (problem : Problem)
  | tooManyDigits
  deriving DecidableEq

def SaveFault.message : SaveFault → String
  | .files problem => problem.message
  | .tooManyDigits =>
    s!"Exceeds the limit ({Json.maxDigits} digits) for integer string conversion; " ++
      "use sys.set_int_max_str_digits() to increase the limit"

def save (location : Location) (base : String) (now : Timestamp) (result : CrawlResult) :
    ExceptT SaveFault (StateM Tree) Unit :=
  match (saved base now result).dump with
  | .ok text => ExceptT.adapt .files (keep location text)
  | .error part => do
    ExceptT.adapt .files (keep location part)
    throw .tooManyDigits

end PageHarvest.Report
