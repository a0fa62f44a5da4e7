import PageHarvest.Fetch.Fetcher

/-! # Trouble on the way

A transport that has no response to give throws. What it throws is of several kinds at once, by
which a fetcher tells whether another attempt is worth while, and whether the trouble is reported
or nobody deals with it.
-/

namespace PageHarvest

/-- The kinds of trouble that a fetcher tells apart. -/
inductive TroubleKind where
  | connection
  | timeout
  /-- A status that may be different at the next attempt. -/
  | passingStatus
  /-- Any trouble with a request, whatever other kind it is of. -/
  | request
  deriving DecidableEq, Inhabited

/-- What a transport throws. -/
structure Trouble where
  kinds : List TroubleKind
  name : String
  message : String
  /-- The status of the response that comes with it, if there is one. -/
  status : Option Int := none
  request_mem : kinds ≠ [] → .request ∈ kinds := by decide

namespace Trouble

/-- The kinds of trouble that may be over at the next attempt. -/
def passingKinds : List TroubleKind := [.connection, .timeout, .passingStatus]

def isPassing (trouble : Trouble) : Bool := trouble.kinds.any passingKinds.contains

/-- Trouble as the answer to an attempt. The status is looked at only if it is the trouble. -/
def answer (trouble : Trouble) : Answer :=
  if trouble.isPassing then
    .lost trouble.message (if .passingStatus ∈ trouble.kinds then trouble.status else none)
  else if .request ∈ trouble.kinds then .refused trouble.message
  else .crashed ⟨trouble.name, trouble.message⟩

end Trouble

/-- What a transport does with a request. -/
inductive Transported where
  | response (status : Int) (text : Option String)
  | thrown (trouble : Trouble)
  deriving Inhabited

def Transported.answer : Transported → Answer
  | .response status text => .response status text
  | .thrown trouble => trouble.answer

/-- Fetches a URL over a transport, told by the number of the attempt, counted from one. -/
def Fetcher.fetchOver {τ : Type} [NatCast τ] [LT τ] [DecidableLT τ] (fetcher : Fetcher τ)
    (url : String) (transport : Nat → Transported) : Visit τ :=
  fetcher.fetch url fun attempt => (transport attempt).answer

end PageHarvest
