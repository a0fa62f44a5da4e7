import PageHarvest.Fetch.Result
import PageHarvest.Journal
import PageHarvest.Text.Blank
import PageHarvest.Text.Quoted
import PageHarvest.Url.Join

/-! # Link filters

A filter decides for each link found on a page whether it is followed, and under which address.
-/

namespace PageHarvest

open Text

/-- What a filter decides. -/
inductive Verdict where
  | follow (link : String)
  | drop
  /-- Dropped because it is no address. -/
  | malformed (reason : String)
  | reject (reason : String)
  | crash (crash : Crash)
  deriving DecidableEq, Inhabited

abbrev LinkFilter := String → Verdict

namespace LinkFilter

def prepend (front : String) : LinkFilter := fun link => .follow (front ++ link)

def isWeb (url : Url) : Bool := url.scheme == "http".toList || url.scheme == "https".toList

/-- Resolves links against a page and drops those that do not lead to a web address. -/
def absolutize (base : String) : LinkFilter := fun link =>
  let trimmed := trim link.toList
  if trimmed.isEmpty then .drop
  else match Url.join base.toList trimmed with
    | .error fault => .malformed fault.message
    | .ok joined => match Url.parse joined with
      | .error fault => .reject fault.message
      | .ok url => if isWeb url then .follow (String.ofList joined) else .drop

/-- What the filter's verdict on a link writes to the journal. -/
def entries (link : String) : Verdict → List Journal.Entry
  | .follow _ | .crash _ => []
  | .drop => [⟨.crawler, .debug, s!"Link dropped by filter: {quoted link}"⟩]
  | .malformed reason =>
    [⟨.crawler, .debug, s!"Malformed link {quoted link}: {reason}"⟩,
      ⟨.crawler, .debug, s!"Link dropped by filter: {quoted link}"⟩]
  | .reject reason => [⟨.crawler, .warning, s!"Link filter rejected {quoted link}: {reason}"⟩]

end LinkFilter

end PageHarvest
