import PageHarvest.Config.Basic
import PageHarvest.Files.Tree
import PageHarvest.Json.Reader
import PageHarvest.Text.Utf8
import PageHarvest.Validate.Report

/-! # Configuration files

A configuration file is UTF-8 text that holds JSON. Line ends of every kind count as line feeds. How
many calls the reader has room for depends on where the program stands when it loads the file.
-/

namespace PageHarvest

open Text

/-- Why a file gives no configuration. -/
inductive ConfigFault where
  | unreadable (path : String) (fault : Files.Fault)
  | notText (fault : Utf8.Fault)
  | notJson (path : String) (error : Json.ReadError)
  | refused (path : String) (refusal : CrawlConfig.Refusal) (report : String)
  deriving DecidableEq

/-- Whether a fault is one of the file or of its data, about which the user is told. -/
def ConfigFault.isFatal : ConfigFault → Bool
  | .unreadable .. | .notJson _ (.malformed ..) | .refused _ (.invalid _) _ => true
  | .notText _ | .notJson _ (.tooManyDigits _) | .notJson _ (.tooDeep _)
  | .refused _ (.nested _) _ => false

def ConfigFault.message : ConfigFault → String
  | .unreadable path fault => s!"Cannot read config {path}: {fault.message path}"
  | .notText fault => fault.message
  | .notJson path error =>
    match error with
    | .malformed .. => s!"Cannot read config {path}: {error.message}"
    | .tooManyDigits _ | .tooDeep _ => error.message
  | .refused path (.invalid _) report => s!"Invalid config {path}: {report}"
  | .refused _ (.nested fault) _ => fault.message

/-- Turns all line ends into line feeds. -/
def unifyLineEnds : List Char → List Char
  | [] => []
  | '\r' :: '\n' :: rest => '\n' :: unifyLineEnds rest
  | c :: rest => (if c = '\r' then '\n' else c) :: unifyLineEnds rest

/-- The configuration in the bytes of a file, read with room for so many calls. -/
def CrawlConfig.ofFile (room : Nat) (path : String) (bytes : Except Files.Fault (List Nat)) :
    Except ConfigFault CrawlConfig := do
  let bytes ← bytes.mapError (.unreadable path)
  let content ← (Utf8.decode bytes).mapError .notText
  let json ← (Json.readWithin room (unifyLineEnds content)).mapError (.notJson path)
  (CrawlConfig.ofJson json).mapError fun refusal => .refused path refusal <|
    match refusal with
    | .invalid invalid => invalid.report (CrawlConfig.flatData json)
    | .nested fault => fault.message

end PageHarvest
