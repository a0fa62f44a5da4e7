import PageHarvest.Console.Basic
import PageHarvest.Console.Markup
import PageHarvest.Crawl.Result

/-! # Printed results

Records, values and failures are printed as tables, diagnostics with their step underlined. What
was read from pages is shown as it is, whatever markup it may look like.
-/

namespace PageHarvest.Report

open Console

/-- Lines on a console, or what is raised instead. -/
abbrev Printed := Except Console.Fault (List String)

def escaped (text : String) : List Char := escape text.toList

/-- The cell of the fields of a record: a line per field. -/
def fieldsCell (record : Record) : List Char :=
  ['\n'].intercalate (record.fields.entries.map fun (name, value) =>
    escaped name ++ ": ".toList ++ escaped value)

def recordTable (records : List Record) : Table where
  title := "Records"
  ruled := true
  columns := [
    ⟨"#", .right, (List.range records.length).map fun n => (toString n).toList⟩,
    ⟨"URL", .left, records.map fun record => escaped (record.url.getD "")⟩,
    ⟨"Fields", .left, records.map fieldsCell⟩]

/-- Prints records, if there are any. -/
def printRecords (console : Console) (records : List Record) : Printed :=
  if records.isEmpty then return [] else console.printTable (recordTable records)

/-- Prints values, if there are any. -/
def printValues (console : Console) (values : List String) : Printed :=
  if values.isEmpty then return []
  else console.printTable ⟨"Values", [⟨"Values", .left, values.map escaped⟩], false⟩

def failureTable (failures : List CrawlFailure) : Table where
  title := "Failures"
  columns := [
    ⟨"Page", .right, failures.map fun failure => (toString failure.page).toList⟩,
    ⟨"URL", .left, failures.map fun failure => escaped failure.url⟩,
    ⟨"Reason", .left, failures.map fun failure => escaped failure.reason⟩]

/-- Prints failures, if there are any. -/
def printFailures (console : Console) (failures : List CrawlFailure) : Printed :=
  if failures.isEmpty then return [] else console.printTable (failureTable failures)

def printDiagnostics (console : Console) (diagnostics : List Diagnostic) : List String :=
  diagnostics.flatMap fun diagnostic => console.printStyled (Console.ofDiagnostic diagnostic)

end PageHarvest.Report
