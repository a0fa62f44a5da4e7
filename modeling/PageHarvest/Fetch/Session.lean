/-! # Sessions of workers

Every worker that fetches has a session of its own, made at its first request and kept in the slot
of the worker. The sessions of all workers are also held in one list: closing ends those in the list
and empties every slot, so that a worker that asks again gets a new one.
-/

namespace PageHarvest

/-- The sessions of a fetcher; sessions are numbered in the order in which they are made. -/
structure Sessions where
  /-- Whether workers have sessions at all. -/
  pooled : Bool := true
  /-- The slots of the workers that have asked since the last closing. -/
  slots : List (String × Nat) := []
  /-- The sessions that are to be closed, in the order in which they were made. -/
  held : List Nat := []
  /-- How many sessions were ever made. -/
  made : Nat := 0
  deriving DecidableEq, Inhabited

namespace Sessions

/-- The session of a worker, made if need be; none if there are no sessions. -/
def ask (sessions : Sessions) (worker : String) : Option Nat × Sessions :=
  if !sessions.pooled then (none, sessions)
  else match sessions.slots.lookup worker with
    | some session => (some session, sessions)
    | none => (some sessions.made,
        { sessions with
          slots := (worker, sessions.made) :: sessions.slots
          held := sessions.held ++ [sessions.made]
          made := sessions.made + 1 })

/-- Closes every session that is held, and empties all slots. -/
def close (sessions : Sessions) : List Nat × Sessions :=
  (sessions.held, { sessions with slots := [], held := [] })

/-- What happens to the sessions of a fetcher. -/
inductive Event where
  | ask (worker : String)
  | close
  deriving DecidableEq, Inhabited

/-- What an event shows: the session handed out, or the sessions closed. -/
inductive Shown where
  | session (worker : String) (session : Option Nat)
  | closed (sessions : List Nat)
  deriving DecidableEq, Inhabited

def step (sessions : Sessions) : Event → Shown × Sessions
  | .ask worker =>
    let (session, after) := sessions.ask worker
    (.session worker session, after)
  | .close =>
    let (closed, after) := sessions.close
    (.closed closed, after)

def run (sessions : Sessions) : List Event → List Shown × Sessions
  | [] => ([], sessions)
  | event :: rest =>
    let (shown, after) := sessions.step event
    let (more, last) := after.run rest
    (shown :: more, last)

end Sessions

end PageHarvest
