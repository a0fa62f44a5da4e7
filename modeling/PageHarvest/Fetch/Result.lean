/-! # What fetching gives

A fetch reports a document or says why there is none. Asking for the document itself turns every
report without one into a failure. A transport may also crash, which no part of the program expects.
-/

namespace PageHarvest

/-- Something that went wrong in a way that no part of the program deals with. -/
structure Crash where
  kind : String
  message : String
  deriving DecidableEq, Inhabited

/-- The report on a fetch. -/
structure FetchResult where
  url : String
  html : Option String := none
  status : Option Int := none
  error : Option String := none
  deriving DecidableEq, Inhabited

/-- Whether there is a document and nothing went wrong. -/
def FetchResult.success (result : FetchResult) : Bool :=
  result.html.isSome && result.error.isNone

/-- A document that could not be fetched, and why. -/
structure FetchFailure where
  url : String
  reason : String
  status : Option Int := none
  deriving DecidableEq, Inhabited

def FetchFailure.message (failure : FetchFailure) : String :=
  s!"Failed to fetch {failure.url}: {failure.reason}"

/-- The document of a report on the fetch of a URL. Without one, the reason is the error reported,
unless that is empty. -/
def FetchResult.document (result : FetchResult) (url : String) : Except FetchFailure String :=
  match result.html, result.error with
  | some html, none => .ok html
  | _, error =>
    let reason := match error with
      | none | some "" => "empty response"
      | some reason => reason
    .error ⟨url, reason, result.status⟩

/-- What asking for a document gives. -/
inductive Fetched where
  | document (html : String)
  | failed (failure : FetchFailure)
  | crashed (crash : Crash)
  deriving DecidableEq, Inhabited

/-- What asking for a document gives, from what the fetch of a URL reported. -/
def Fetched.ofReport (url : String) : Except Crash FetchResult → Fetched
  | .error crash => .crashed crash
  | .ok result => match result.document url with
    | .ok html => .document html
    | .error failure => .failed failure

/-- A seed document that could not be fetched. -/
structure SeedUnreachable where
  url : String
  reason : String
  deriving DecidableEq, Inhabited

def SeedUnreachable.message (failure : SeedUnreachable) : String :=
  s!"Seed {failure.url} is unreachable: {failure.reason}"

end PageHarvest
