import PageHarvest.Crawl.Result
import PageHarvest.Fetch.Result
import PageHarvest.Logged
import PageHarvest.Selector.Fault

/-! # The surroundings of a crawl

A crawl meets sites that answer, a clock that is read and calls that cancel it. What they do may
depend on how often a URL was fetched, the clock was read or the crawl has looked for a reason to
stop before; all of that is fixed in the `Surroundings`, and the counting is done in the `Activity`,
which also holds what the crawl leaves behind: the URLs that it fetched and its journal.
-/

namespace PageHarvest

/-- What the workers of a page do, one step at a time. -/
inductive WorkerStep where
  /-- A free worker takes the next link that waits. -/
  | take
  /-- The worker of the link at an index looks whether to stop. -/
  | check (index : Nat)
  /-- The worker of the link at an index fetches and reads its document. -/
  | fetch (index : Nat)
  /-- The worker of the link at an index hands its outcome in. -/
  | finish (index : Nat)
  /-- Somebody cancels the crawl. -/
  | cancel
  deriving DecidableEq, Inhabited

/-- Everything that a crawl meets, over times `τ`. -/
structure Surroundings (τ : Type) where
  /-- What asking for a URL gives after a number of earlier fetches of it. -/
  answer : String → Nat → Fetched
  /-- What the clock shows after a number of earlier readings. -/
  reading : Nat → τ
  /-- Whether more time than a limit has passed from a start until now. -/
  exceeds (start now limit : τ) : Bool
  /-- Whether the crawl is cancelled during a fetch of a URL after a number of earlier ones. -/
  cancels : String → Nat → Bool := fun _ _ => false
  /-- Whether somebody cancels the crawl at any other moment, told by the number of looks for a
  reason to stop that came before. -/
  interrupts : Nat → Bool := fun _ => false
  /-- The steps that the workers of a page take before they go on one after the other. -/
  steps : Nat → List WorkerStep := fun _ => []

/-- How far a crawl has come. -/
structure Course (τ : Type) where
  /-- Every URL fetched, in order. -/
  fetched : List String := []
  /-- How often the clock was read. -/
  readings : Nat := 0
  /-- How often the crawl has looked for a reason to stop. -/
  looks : Nat := 0
  cancelled : Bool := false
  /-- When the last run began. -/
  startedAt : τ
  /-- What the last run that ended well gave. -/
  last : Option CrawlResult := none

/-- What a crawl has done and how it stands. -/
structure Activity (τ : Type) extends Course τ where
  journal : List Journal.Entry := []

/-- Why a run ends without a result. -/
inductive Abort where
  | fetch (failure : FetchFailure)
  | seed (failure : SeedUnreachable)
  | selector (what : Selector.Unsupported)
  | crash (crash : Crash)
  deriving DecidableEq, Inhabited

def Abort.message : Abort → String
  | .fetch failure => failure.message
  | .seed failure => failure.message
  | .selector what => what.message
  | .crash what => what.message

/-- Work of a crawl: it may abort, and it changes the activity in any case. -/
abbrev Crawling (τ α : Type) := ExceptT Abort (StateM (Activity τ)) α

namespace Crawling

variable {τ α : Type}

def note (source : Journal.Source) (level : Journal.Level) (text : String) : Crawling τ Unit :=
  modify fun activity => { activity with journal := activity.journal ++ [⟨source, level, text⟩] }

def notes (entries : List Journal.Entry) : Crawling τ Unit :=
  modify fun activity => { activity with journal := activity.journal ++ entries }

def reading (work : Logged Selector.Unsupported α) : Crawling τ α := do
  notes work.outcome.2
  match work.outcome.1 with
  | .ok value => return value
  | .error what => throw (.selector what)

def time (around : Surroundings τ) : Crawling τ τ := do
  let activity ← get
  set { activity with readings := activity.readings + 1 }
  return around.reading activity.readings

def cancelled (around : Surroundings τ) : Crawling τ Bool := do
  let activity ← get
  let cancelled := activity.cancelled || around.interrupts activity.looks
  set { activity with looks := activity.looks + 1, cancelled }
  return cancelled

def ask (around : Surroundings τ) (url : String) : Crawling τ Fetched := do
  let activity ← get
  let earlier := activity.fetched.count url
  set { activity with
    fetched := activity.fetched ++ [url]
    cancelled := activity.cancelled || around.cancels url earlier }
  return around.answer url earlier

/-- The outcome of work, and the activity after it. -/
def runOn (work : Crawling τ α) (activity : Activity τ) : Except Abort α × Activity τ :=
  work.run.run activity

end Crawling

end PageHarvest
