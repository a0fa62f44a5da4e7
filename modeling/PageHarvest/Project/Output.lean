import PageHarvest.Clock
import PageHarvest.Project.Folder
import PageHarvest.Url.Basic

/-! # Names of result files

A result file is named for the site that was crawled and for the time.
-/

namespace PageHarvest.Project

open Files

/-- The part of a name that stands for a site; points and colons of its authority do not occur in
it. -/
def siteName (url : Url) : List Char :=
  let authority := Text.substitute "www.".toList [] url.authority
  let site := if authority.isEmpty then "local".toList else authority
  site.map fun c => if c = '.' || c = ':' then '_' else c

def outputName (url : Url) (now : Timestamp) : String :=
  String.ofList (siteName url) ++ "_" ++ now.compact ++ ".json"

/-- The place of the result file for a crawl from an address. -/
def outputFile (tree : Tree) (here : Place) (base : String) (now : Timestamp) :
    Except Url.Fault Place := do
  let url ← Url.parse base.toList
  return output tree here ++ [outputName url now]

end PageHarvest.Project
