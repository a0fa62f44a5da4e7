import PageHarvest.Fetch.Retry
import PageHarvest.Fetch.Seconds
import PageHarvest.Text.Quoted

/-! # Fetchers

A fetcher sends requests that look like a browser's, tries again where that may help and reports
what came of it.
-/

namespace PageHarvest

/-- How documents are fetched, over times `τ`. -/
structure Fetcher (τ : Type) where
  /-- How long an attempt may take, if there is a limit. -/
  timeout : Option τ
  userAgent : String
  policy : RetryPolicy τ
  /-- Whether every worker keeps its connections in a session of its own. -/
  pooled : Bool
  deriving Inhabited

/-- What is sent. -/
structure Request (τ : Type) where
  url : String
  headers : List (String × String)
  timeout : Option τ
  followRedirects : Bool
  pooled : Bool

/-- What a fetch came to. -/
structure Visit (τ : Type) where
  request : Request τ
  attempts : Attempts τ
  report : Except Crash FetchResult

namespace Fetcher

variable {τ : Type}

/-- The name that a fetcher gives itself if it is not told another. -/
def browserName : String :=
  "Mozilla/5.0 (Windows NT 10.0; Win64; x64) AppleWebKit/537.36 (KHTML, like Gecko) " ++
    "Chrome/120.0.0.0 Safari/537.36"

/-- The name that a fetcher is told, unless that is empty. -/
def nameOr : Option String → String
  | none | some "" => browserName
  | some name => name

/-- The fetcher used where nothing else is said. -/
def standard : Fetcher Seconds where
  timeout := some (.whole 30)
  userAgent := browserName
  policy := ⟨3, .decimal 1, .decimal 10⟩
  pooled := true

def headers (fetcher : Fetcher τ) : List (String × String) :=
  [("User-Agent", fetcher.userAgent),
    ("Accept", "text/html,application/xhtml+xml,application/xml;q=0.9,*/*;q=0.8"),
    ("Accept-Language", "en-US,en;q=0.9"),
    ("Connection", "keep-alive")]

def request (fetcher : Fetcher τ) (url : String) : Request τ where
  url := url
  headers := fetcher.headers
  timeout := fetcher.timeout
  followRedirects := true
  pooled := fetcher.pooled

/-- Fetches a URL, where `send` gives the answer to each attempt, counted from one. -/
def fetch [NatCast τ] [LT τ] [DecidableLT τ] (fetcher : Fetcher τ) (url : String)
    (send : Nat → Answer) : Visit τ :=
  let attempts := fetcher.policy.attempts send
  ⟨fetcher.request url, attempts, attempts.last.report url⟩

def kinds : List String := ["simple"]

/-- What is said of a kind that does not exist. -/
def unknownKind (kind : String) : String :=
  s!"Unknown fetcher type: {kind}. Choose from: {Text.quotedList kinds}"

def ofKind (kind : String) : Except String (Fetcher Seconds) :=
  if kinds.contains kind then .ok standard else .error (unknownKind kind)

end Fetcher

end PageHarvest
