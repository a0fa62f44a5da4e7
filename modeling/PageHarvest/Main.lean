import PageHarvest.CommandLine.Run
import PageHarvest.Console.Terminal
import PageHarvest.Fetch.Fetcher
import PageHarvest.Json.Reader

/-! # Entry point

The program works on the part of the file system around the folder in which it is started. Its
documents are saved pages: the environment names a file that maps URLs to texts, and a URL that is
not in it is not found. Reading a saved page takes no time, so no deadline is ever passed. What
stands at a place is what links there lead to.
-/

namespace PageHarvest.CommandLine

open Files

def standing : IO Place := do
  return (Text.split "/" (← IO.currentDir).toString).filter (!staysHere ·)

def currentTime : IO Timestamp := do
  let (_, path) ← IO.FS.createTempFile
  let time := (← path.metadata).modified
  IO.FS.removeFile path
  return .ofSeconds time.sec.toNat (time.nsec.toNat / 1000)

/-- Adds what stands at a place of the file system to a tree, a file with its content only if that
is wanted. -/
def look (withContent : Bool) (tree : Tree) (place : Place) : IO Tree := do
  let path := (← IO.currentDir) / tree.path place
  if ← path.isDir then return tree.put place .folder
  if !(← path.pathExists) then return tree
  let bytes ← if withContent then IO.FS.readBinFile path else pure .empty
  return tree.put place <| .file <| match String.fromUTF8? bytes with
    | some text => .text text
    | none => .raw (bytes.toList.map UInt8.toNat)

/-- The places on the way along a path. -/
def placesAlong (here : Place) (path : String) : List Place :=
  let location := Location.ofPath here path
  (List.range location.names.length).map fun n =>
    (location.names.take (n + 1)).foldl step location.start

def loadTree (here : Place) (now : Timestamp) (arguments : Arguments) : IO Tree := do
  let marked := (Project.upwards here).flatMap fun place =>
    place :: Project.markers.map fun marker => place ++ [marker]
  let tree ← (marked.filter (!·.isEmpty)).foldlM (look false) {}
  let own := [Project.home tree here ++ [Project.ignoreFile], Project.logs tree here,
    Project.output tree here]
  let tree ← own.foldlM (look false) tree
  let log := Project.logs tree here ++ [Project.logName now]
  let named := [arguments.config, arguments.out.getD ""].flatMap (placesAlong here)
  (log :: named.filter (!·.isEmpty)).foldlM (look true) tree

/-- Brings what is new in a tree to the file system. -/
def storeTree (before after : Tree) : IO Unit :=
  for (place, entry) in after.since before do
    match entry with
    | .folder => IO.FS.createDirAll (after.path place)
    | .file content =>
      IO.FS.writeBinFile (after.path place) ⟨(content.bytes.map Nat.toUInt8).toArray⟩
    -- The program makes no links.
    | .link _ => pure ()

def savedPages : IO Json := do
  match ← IO.getEnv "PATHCRAWL_PAGES" with
  | none => return .object []
  | some path => match Json.parse (← IO.FS.readFile path) with
    | .ok pages => return pages
    | .error fault => throw (IO.userError fault.message)

def answerFrom (pages : Json) (url : String) : Answer :=
  match pages.get? url with
  | some (.string html) => .response 200 (some html)
  | _ => .response 404 none

def pageSurroundings (pages : Json) : Surroundings Float where
  answer url _ :=
    .ofReport url (Fetcher.standard.fetch url fun _ => answerFrom pages url).report
  reading _ := 0
  exceeds start now limit := limit < now - start

/-- How many of a thousand calls are left for reading a configuration. -/
def callsLeft : Nat := 992

def consoleWidth : IO Nat := do
  return ((← IO.getEnv "COLUMNS").bind String.toNat?).getD 80

/-- Tells how the program ends, and gives the exit code. -/
def finish : Ending → IO UInt32
  | .exit code => return code.toUInt32
  | .help => do
    IO.println usage
    return 0
  | .misused misuse => do
    IO.eprintln usage
    IO.eprintln s!"{programName}: error: {misuse.message}"
    return 2
  | .broken fault => do
    IO.eprintln fault.message
    return 1

def start (line : List String) : IO UInt32 := do
  let here ← standing
  let now ← currentTime
  let logLevel ← IO.getEnv "PATHCRAWL_LOG_LEVEL"
  let setting := {
    here, now, logLevel
    stamp := now.stamp ++ " - "
    console := Console.terminal (← consoleWidth)
    room := callsLeft
    userAgent := ← IO.getEnv "PATHCRAWL_USER_AGENT"
    around := pageSurroundings (← savedPages)
    pageLimit := 1000000 }
  let before ← match Arguments.read logLevel line with
    | .ok arguments => loadTree here now arguments
    | .error _ => pure {}
  let (ending, state) := run setting line before
  storeTree before state.tree
  state.progress.printed.forM IO.println
  finish ending

end PageHarvest.CommandLine

def main (line : List String) : IO UInt32 := PageHarvest.CommandLine.start line
