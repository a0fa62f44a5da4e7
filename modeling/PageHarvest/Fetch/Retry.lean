import PageHarvest.Fetch.Result

/-! # Trying again

A request that fails for a passing reason is sent again, up to a limit and with growing pauses
between the attempts. Any other answer is final.
-/

namespace PageHarvest

/-- What a request comes to. -/
inductive Answer where
  | response (status : Int) (text : Option String)
  /-- No response, for a reason that may pass, perhaps with the status that was the reason. -/
  | lost (message : String) (status : Option Int := none)
  /-- No response, and none to be expected. -/
  | refused (message : String)
  | crashed (crash : Crash)
  deriving DecidableEq, Inhabited

namespace Answer

def passingStatuses : List Int := [429, 500, 502, 503, 504]

def statusPasses (status : Int) : Bool := passingStatuses.contains status

def isPassing : Answer → Bool
  | .response status _ => statusPasses status
  | .lost .. => true
  | .refused _ | .crashed _ => false

def statusText (status : Int) : String := s!"HTTP {status}"

def problem : Answer → String
  | .response status _ => statusText status
  | .lost message _ | .refused message => message
  | .crashed crash => crash.message

def report (url : String) : Answer → Except Crash FetchResult
  | .response status text =>
    if status ≥ 400 then .ok { url, status := some status, error := some (statusText status) }
    else .ok { url, html := text, status := some status }
  | .lost message status => .ok { url, status, error := some message }
  | .refused message => .ok { url, error := some message }
  | .crashed crash => .error crash

end Answer

/-- How often a request is sent at most, and how long the pauses are, in times `τ`. -/
structure RetryPolicy (τ : Type) where
  /-- Attempts at one URL, the first one included; there is always a first one. -/
  limit : Int
  waitMin : τ
  waitMax : τ
  deriving Inhabited

/-- An attempt after which there was another one. -/
structure Retry (τ : Type) where
  attempt : Nat
  problem : String
  pause : τ

/-- What the attempts at one URL came to. -/
structure Attempts (τ : Type) where
  retries : List (Retry τ)
  last : Answer

def Attempts.count {τ : Type} (attempts : Attempts τ) : Nat := attempts.retries.length + 1

section Pauses

variable {τ : Type} [LT τ] [DecidableLT τ]

/-- The longer of two times, the first if they are equally long. -/
def longer (a b : τ) : τ := if a < b then b else a

/-- The shorter of two times, the first if they are equally long. -/
def shorter (a b : τ) : τ := if b < a then b else a

/-- The pause after an attempt: it doubles from one second on, within the bounds. -/
def RetryPolicy.pause [NatCast τ] (policy : RetryPolicy τ) (attempt : Nat) : τ :=
  longer (longer ((0 : Nat) : τ) policy.waitMin)
    (shorter (Nat.pow 2 (attempt - 1) : τ) policy.waitMax)

/-- Attempts from a number on, with at most `left` more of them after the first. -/
def RetryPolicy.tryFrom [NatCast τ] (policy : RetryPolicy τ) (send : Nat → Answer) :
    (left attempt : Nat) → Attempts τ
  | 0, attempt => ⟨[], send attempt⟩
  | left + 1, attempt =>
    let answer := send attempt
    if answer.isPassing then
      let rest := policy.tryFrom send left (attempt + 1)
      ⟨⟨attempt, answer.problem, policy.pause attempt⟩ :: rest.retries, rest.last⟩
    else ⟨[], answer⟩

/-- The attempts at one URL, where `send` gives the answer to each attempt, counted from one. -/
def RetryPolicy.attempts [NatCast τ] (policy : RetryPolicy τ) (send : Nat → Answer) : Attempts τ :=
  policy.tryFrom send (policy.limit - 1).toNat 1

end Pauses

end PageHarvest
