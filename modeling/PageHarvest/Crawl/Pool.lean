import PageHarvest.Crawl.Crawler

/-! # Worker pools

The links of a page are shared out to workers. Each worker takes a link, looks whether to stop,
fetches, and hands its outcome in; the steps of different workers may come in any order. A pool
takes the steps of a schedule and then lets the workers go on one after the other until no link is
left. Steps that cannot be taken are passed over.
-/

namespace PageHarvest

/-- How far the worker of a link has come. -/
inductive Stage where
  | taken
  /-- There was no reason to stop. -/
  | cleared
  | decided (outcome : Except Abort LinkOutcome)

/-- A link that a worker works on. -/
structure Job where
  index : Nat
  link : String
  stage : Stage := .taken

/-- The workers of a page. -/
structure Pool where
  /-- Links that no worker has taken yet, with their places on the page. -/
  waiting : List (Nat × String)
  running : List Job := []
  /-- Outcomes in the order in which they were handed in. -/
  outcomes : List (Nat × LinkOutcome) := []
  /-- Links whose workers broke down. -/
  aborts : List (Nat × Abort) := []

namespace Pool

/-- The pool of the links of a page. -/
def ofLinks (links : List String) : Pool where
  waiting := links.zipIdx.map fun (link, index) => (index, link)

def setStage (pool : Pool) (index : Nat) (stage : Stage) : Pool :=
  { pool with
    running := pool.running.map fun job => if job.index = index then { job with stage } else job }

def job? (pool : Pool) (index : Nat) : Option Job :=
  pool.running.find? (·.index == index)

def handIn (pool : Pool) (index : Nat) (decision : Except Abort LinkOutcome) : Pool :=
  let running := pool.running.filter (·.index != index)
  match decision with
  | .ok outcome => { pool with running, outcomes := pool.outcomes ++ [(index, outcome)] }
  | .error abort => { pool with running, aborts := pool.aborts ++ [(index, abort)] }

variable {τ : Type}

/-- Carries out one step of at most `limit` workers on a page. -/
def step (crawler : Crawler τ) (around : Surroundings τ) (page limit : Nat) (pool : Pool) :
    WorkerStep → StateM (Activity τ) Pool
  | .take => match pool.waiting with
    | (index, link) :: waiting =>
      if pool.running.length < limit then
        return { pool with waiting, running := pool.running ++ [{ index, link }] }
      else return pool
    | [] => return pool
  | .check index => match pool.job? index with
    | some { link, stage := .taken, .. } => do
      match ← (crawler.stopReason around).run with
      | .ok (some reason) =>
        return pool.setStage index (.decided (.ok (Crawler.abandoned link page reason)))
      | .ok none => return pool.setStage index .cleared
      | .error abort => return pool.setStage index (.decided (.error abort))
    | _ => return pool
  | .fetch index => match pool.job? index with
    | some { link, stage := .cleared, .. } => do
      return pool.setStage index (.decided (← (crawler.fetchLink around page link).run))
    | _ => return pool
  | .finish index => match pool.job? index with
    | some { stage := .decided decision, .. } => return pool.handIn index decision
    | _ => return pool
  | .cancel => do
    modify fun activity => { activity with cancelled := true }
    return pool

def steps (crawler : Crawler τ) (around : Surroundings τ) (page limit : Nat) :
    Pool → List WorkerStep → StateM (Activity τ) Pool
  | pool, [] => return pool
  | pool, step :: rest => do
    let pool ← pool.step crawler around page limit step
    steps crawler around page limit pool rest

/-- The steps that end the work on a link that was taken. -/
def finishing (index : Nat) : List WorkerStep := [.check index, .fetch index, .finish index]

/-- The steps that end all work, link by link. -/
def draining (pool : Pool) : List WorkerStep :=
  pool.running.flatMap (fun job => finishing job.index) ++
    pool.waiting.flatMap fun (index, _) => .take :: finishing index

/-- Follows a schedule and then ends all work. -/
def run (crawler : Crawler τ) (around : Surroundings τ) (page limit : Nat) (pool : Pool)
    (schedule : List WorkerStep) : StateM (Activity τ) Pool := do
  let pool ← pool.steps crawler around page limit schedule
  pool.steps crawler around page limit pool.draining

/-- The breakdown of the first link that has one. -/
def firstAbort? (pool : Pool) : Option Abort :=
  (pool.aborts.foldl (fun (first : Option (Nat × Abort)) next => match first with
    | none => some next
    | some first => if next.1 < first.1 then some next else some first) none).map (·.2)

/-- The outcomes, put in the order of the links if asked. -/
def ordered (pool : Pool) (preserveOrder : Bool) : List LinkOutcome :=
  let outcomes :=
    if preserveOrder then pool.outcomes.mergeSort (fun a b => a.1 ≤ b.1) else pool.outcomes
  outcomes.map (·.2)

end Pool

def Crawler.processOnPool {τ : Type} (crawler : Crawler τ) (around : Surroundings τ) (page : Nat)
    (links : List String) : Crawling τ (List LinkOutcome) := do
  let limit := min crawler.workers links.length
  let pool ← (Pool.ofLinks links).run crawler around page limit (around.steps page)
  match pool.firstAbort? with
  | some abort => throw abort
  | none => return pool.ordered crawler.preserveOrder

end PageHarvest
