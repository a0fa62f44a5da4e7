import PageHarvest.Proofs.Crawl.Handling

/-! # What the steps of a pool do

Each step of a schedule moves a pool and a course, or is passed over. Following a schedule is
following its moves one by one; draining a pool leaves no link waiting and no worker running, so
that every link of the page has been handed in.
-/

namespace PageHarvest

variable {τ : Type}

namespace Pool

variable (crawler : Crawler τ) (around : Surroundings τ) (page limit : Nat)

/-- What a step does to a pool and a course. -/
inductive Moves (pool : Pool) (course : Course τ) : WorkerStep → Pool → Course τ → Prop
  | full (full : pool.waiting = [] ∨ limit ≤ pool.running.length) :
    Moves pool course .take pool course
  | take {index : Nat} {link : String} {waiting : List (Nat × String)}
    (first : pool.waiting = (index, link) :: waiting) (free : pool.running.length < limit) :
    Moves pool course .take { pool with waiting, running := pool.running ++ [{ index, link }] }
      course
  | stop {index : Nat} {job : Job} {reason : StopReason} (found : pool.job? index = some job)
    (taken : job.stage = .taken) (reasoned : crawler.reasonOn around course = some reason) :
    Moves pool course (.check index)
      (pool.setStage index (.decided (crawler.decision page ⟨job.link, .abandoned reason⟩)))
      (crawler.looked around course)
  | clear {index : Nat} {job : Job} (found : pool.job? index = some job)
    (taken : job.stage = .taken) (unreasoned : crawler.reasonOn around course = none) :
    Moves pool course (.check index) (pool.setStage index .cleared) (crawler.looked around course)
  | passCheck {index : Nat}
    (unready : ∀ job, pool.job? index = some job → job.stage ≠ .taken) :
    Moves pool course (.check index) pool course
  | fetch {index : Nat} {job : Job} (found : pool.job? index = some job)
    (cleared : job.stage = .cleared) :
    Moves pool course (.fetch index)
      (pool.setStage index
        (.decided (crawler.decision page ⟨job.link, .answered (around.answerOn course job.link)⟩)))
      (around.asked job.link course)
  | passFetch {index : Nat}
    (unready : ∀ job, pool.job? index = some job → job.stage ≠ .cleared) :
    Moves pool course (.fetch index) pool course
  | finish {index : Nat} {job : Job} {decision : Except Abort LinkOutcome}
    (found : pool.job? index = some job) (decided : job.stage = .decided decision) :
    Moves pool course (.finish index) (pool.handIn index decision) course
  | passFinish {index : Nat}
    (unready : ∀ job, pool.job? index = some job → ∀ decision, job.stage ≠ .decided decision) :
    Moves pool course (.finish index) pool course
  | cancel : Moves pool course .cancel pool { course with cancelled := true }

/-- What a schedule does to a pool and a course. -/
inductive Follows : Pool → Course τ → List WorkerStep → Pool → Course τ → Prop
  | nil (pool : Pool) (course : Course τ) : Follows pool course [] pool course
  | cons {pool middle last : Pool} {course after done : Course τ} {step : WorkerStep}
    {rest : List WorkerStep} (moves : Moves crawler around page limit pool course step middle after)
    (follows : Follows middle after rest last done) : Follows pool course (step :: rest) last done

/-- Every step of a pool makes one of its moves. -/
private theorem step_moves (pool : Pool) (course : Course τ) (step : WorkerStep) :
    ∃ next after, Leads (pool.step crawler around page limit step) course next after ∧
      Moves crawler around page limit pool course step next after := by
  cases step with
  | take =>
    rw [Pool.step]
    rcases first : pool.waiting with _ | ⟨⟨index, link⟩, waiting⟩
    · exact ⟨pool, course, .pure _ _, .full (.inl first)⟩
    · by_cases free : pool.running.length < limit
      · simp only [free, if_true]
        exact ⟨_, course, .pure _ _, .take first free⟩
      · simp only [free, if_false]
        exact ⟨pool, course, .pure _ _, .full (.inr (Nat.not_lt.mp free))⟩
  | check index =>
    rw [Pool.step]
    rcases found : pool.job? index with _ | ⟨place, link, _ | _ | decision⟩
    · exact ⟨pool, course, .pure _ _, .passCheck (by simp [found])⟩
    · have look := crawler.leads_stopReason around course
      cases reasoned : crawler.reasonOn around course with
      | some reason =>
        rw [reasoned] at look
        exact ⟨_, _, look.bind (.pure _ _), .stop found rfl reasoned⟩
      | none =>
        rw [reasoned] at look
        exact ⟨_, _, look.bind (.pure _ _), .clear found rfl reasoned⟩
    · exact ⟨pool, course, .pure _ _, .passCheck (by simp [found])⟩
    · exact ⟨pool, course, .pure _ _, .passCheck (by simp [found])⟩
  | fetch index =>
    rw [Pool.step]
    rcases found : pool.job? index with _ | ⟨place, link, _ | _ | decision⟩
    · exact ⟨pool, course, .pure _ _, .passFetch (by simp [found])⟩
    · exact ⟨pool, course, .pure _ _, .passFetch (by simp [found])⟩
    · exact ⟨_, _, (crawler.leads_fetchLink around page link course).bind (.pure _ _),
        .fetch found rfl⟩
    · exact ⟨pool, course, .pure _ _, .passFetch (by simp [found])⟩
  | finish index =>
    rw [Pool.step]
    rcases found : pool.job? index with _ | ⟨place, link, _ | _ | decision⟩
    · exact ⟨pool, course, .pure _ _, .passFinish (by simp [found])⟩
    · exact ⟨pool, course, .pure _ _, .passFinish (by simp [found])⟩
    · exact ⟨pool, course, .pure _ _, .passFinish (by simp [found])⟩
    · exact ⟨_, course, .pure _ _, .finish found rfl⟩
  | cancel => exact ⟨pool, _, fun journal => ⟨journal, rfl⟩, .cancel⟩

/-- What steps do to a pool is told by the moves that they make. -/
theorem steps_follows (pool : Pool) (course : Course τ) (schedule : List WorkerStep) :
    ∃ last done, Leads (pool.steps crawler around page limit schedule) course last done ∧
      Follows crawler around page limit pool course schedule last done := by
  induction schedule generalizing pool course with
  | nil => exact ⟨pool, course, .pure _ _, .nil pool course⟩
  | cons step rest ih =>
    obtain ⟨next, after, leads, moves⟩ := step_moves crawler around page limit pool course step
    obtain ⟨last, done, goesOn, follows⟩ := ih next after
    exact ⟨last, done, leads.bind goesOn, .cons moves follows⟩

/-- A run of a pool follows its schedule, and drains what is left. -/
theorem run_follows (pool : Pool) (course : Course τ) (schedule : List WorkerStep) :
    ∃ middle after last done,
      Leads (pool.run crawler around page limit schedule) course last done ∧
      Follows crawler around page limit pool course schedule middle after ∧
      Follows crawler around page limit middle after middle.draining last done := by
  obtain ⟨middle, after, leads, follows⟩ :=
    steps_follows crawler around page limit pool course schedule
  obtain ⟨last, done, goesOn, drains⟩ :=
    steps_follows crawler around page limit middle after middle.draining
  exact ⟨middle, after, last, done, leads.bind goesOn, follows, drains⟩

theorem steps_append (pool : Pool) (first second : List WorkerStep) :
    pool.steps crawler around page limit (first ++ second) =
      pool.steps crawler around page limit first >>= fun middle =>
        middle.steps crawler around page limit second := by
  induction first generalizing pool with
  | nil => rfl
  | cons step rest ih =>
    rw [List.cons_append, steps, steps, bind_assoc]
    simp only [ih]

/-- A pool that is run to its end takes the steps of its schedule and then some more. -/
theorem exists_run_eq_steps (pool : Pool) (schedule : List WorkerStep)
    (activity : Activity τ) :
    ∃ rest, (pool.run crawler around page limit schedule).run activity =
      (pool.steps crawler around page limit (schedule ++ rest)).run activity := by
  refine ⟨((pool.steps crawler around page limit schedule).run activity).1.draining, ?_⟩
  rw [steps_append]
  rfl

/-! ## Draining -/

section

variable {crawler around page limit} {pool next last : Pool} {course after done : Course τ}

private theorem Follows.of_append {first second : List WorkerStep}
    (follows : Follows crawler around page limit pool course (first ++ second) last done) :
    ∃ middle after, Follows crawler around page limit pool course first middle after ∧
      Follows crawler around page limit middle after second last done := by
  induction first generalizing pool course with
  | nil => exact ⟨pool, course, .nil pool course, follows⟩
  | cons step rest ih =>
    obtain _ | ⟨moves, follows⟩ := follows
    obtain ⟨middle, after, begins, ends⟩ := ih follows
    exact ⟨middle, after, .cons moves begins, ends⟩

/-- Moves after moves are moves. -/
theorem Follows.append {first second : List WorkerStep}
    (begins : Follows crawler around page limit pool course first next after)
    (ends : Follows crawler around page limit next after second last done) :
    Follows crawler around page limit pool course (first ++ second) last done := by
  induction begins with
  | nil => exact ends
  | cons moves _ ih => exact .cons moves (ih ends)

theorem job?_index {index : Nat} {job : Job} (found : pool.job? index = some job) :
    job.index = index := by
  simpa using List.find?_some found

private theorem job?_setStage (pool : Pool) (index : Nat) (stage : Stage) :
    (pool.setStage index stage).job? index =
      (pool.job? index).map fun job => { job with stage } := by
  rw [job?, job?, setStage]
  induction pool.running with
  | nil => rfl
  | cons job rest ih =>
    by_cases same : job.index = index
    · simp [same]
    · simpa [List.find?_cons, same] using ih

/-- The rest of a pool beside the worker of one link. -/
def Beside (index : Nat) (pool next : Pool) : Prop :=
  next.waiting = pool.waiting ∧
    next.running.filter (·.index != index) = pool.running.filter (·.index != index)

private theorem beside_setStage (pool : Pool) (index : Nat) (stage : Stage) :
    Beside index pool (pool.setStage index stage) := by
  refine ⟨rfl, ?_⟩
  rw [setStage]
  induction pool.running with
  | nil => rfl
  | cons job rest ih =>
    rw [List.map_cons, List.filter_cons, List.filter_cons]
    by_cases same : job.index = index
    · simpa [same] using ih
    · simpa [same] using ih

private theorem beside_handIn (pool : Pool) (index : Nat) (decision : Except Abort LinkOutcome) :
    Beside index pool (pool.handIn index decision) := by
  cases decision <;> exact ⟨rfl, by simp [handIn, List.filter_filter]⟩

theorem running_handIn (pool : Pool) (index : Nat) (decision : Except Abort LinkOutcome) :
    (pool.handIn index decision).running = pool.running.filter (·.index != index) := by
  cases decision <;> rfl

private theorem Moves.beside {index : Nat} {step : WorkerStep} (own : step ∈ finishing index)
    (moves : Moves crawler around page limit pool course step next after) :
    Beside index pool next := by
  simp only [finishing, List.mem_cons, List.not_mem_nil, or_false] at own
  rcases own with rfl | rfl | rfl
  · cases moves with
    | passCheck => exact ⟨rfl, rfl⟩
    | stop => exact beside_setStage _ _ _
    | clear => exact beside_setStage _ _ _
  · cases moves with
    | passFetch => exact ⟨rfl, rfl⟩
    | fetch => exact beside_setStage _ _ _
  · cases moves with
    | passFinish => exact ⟨rfl, rfl⟩
    | finish => exact beside_handIn _ _ _

private theorem Moves.not_taken {index : Nat}
    (moves : Moves crawler around page limit pool course (.check index) next after) {job : Job}
    (found : next.job? index = some job) : job.stage ≠ .taken := by
  cases moves with
  | passCheck unready => exact unready job found
  | stop =>
    rw [job?_setStage] at found
    obtain ⟨job, -, rfl⟩ := Option.map_eq_some_iff.mp found
    exact nofun
  | clear =>
    rw [job?_setStage] at found
    obtain ⟨job, -, rfl⟩ := Option.map_eq_some_iff.mp found
    exact nofun

private theorem Moves.decided {index : Nat}
    (checked : ∀ job, pool.job? index = some job → job.stage ≠ .taken)
    (moves : Moves crawler around page limit pool course (.fetch index) next after) {job : Job}
    (found : next.job? index = some job) : ∃ decision, job.stage = .decided decision := by
  cases moves with
  | passFetch unready =>
    rcases stage : job.stage with _ | _ | decision
    · exact absurd stage (checked job found)
    · exact absurd stage (unready job found)
    · exact ⟨decision, rfl⟩
  | fetch =>
    rw [job?_setStage] at found
    obtain ⟨job, -, rfl⟩ := Option.map_eq_some_iff.mp found
    exact ⟨_, rfl⟩

private theorem Moves.gone {index : Nat}
    (decided : ∀ job, pool.job? index = some job → ∃ decision, job.stage = .decided decision)
    (moves : Moves crawler around page limit pool course (.finish index) next after) :
    next.running = pool.running.filter (·.index != index) := by
  cases moves with
  | passFinish unready =>
    have absent : pool.job? index = none := by
      cases found : pool.job? index with
      | none => rfl
      | some job =>
        obtain ⟨decision, stage⟩ := decided job found
        exact absurd stage (unready job found decision)
    have others := List.find?_eq_none.mp absent
    exact (List.filter_eq_self.mpr fun job member => by simpa using others job member).symm
  | finish => exact running_handIn _ _ _

/-- The three steps of a worker take its link off the pool and touch no other. -/
theorem Follows.finishing {index : Nat}
    (follows : Follows crawler around page limit pool course (finishing index) last done) :
    last.waiting = pool.waiting ∧
      last.running = pool.running.filter (·.index != index) := by
  obtain _ | ⟨check, _ | ⟨fetch, _ | ⟨finish, _ | _⟩⟩⟩ := follows
  have checked := check.beside (.head _)
  have fetched := fetch.beside (.tail _ (.head _))
  have finished := finish.beside (.tail _ (.tail _ (.head _)))
  have gone := finish.gone fun job found => fetch.decided (fun job => check.not_taken) found
  refine ⟨finished.1.trans (fetched.1.trans checked.1), ?_⟩
  rw [gone, fetched.2, checked.2]

/-- Finishing jobs one after the other takes each of them out of those at work. -/
private theorem Follows.finishing_all {jobs : List Job}
    (follows : Follows crawler around page limit pool course
      (jobs.flatMap fun job => Pool.finishing job.index) last done) :
    last.waiting = pool.waiting ∧
      last.running =
        pool.running.filter fun job => jobs.all fun other => job.index != other.index := by
  induction jobs generalizing pool course with
  | nil =>
    cases follows
    exact ⟨rfl, (List.filter_eq_self.mpr fun _ _ => rfl).symm⟩
  | cons job rest ih =>
    rw [List.flatMap_cons] at follows
    obtain ⟨middle, after, first, others⟩ := follows.of_append
    obtain ⟨waiting, running⟩ := first.finishing
    obtain ⟨waiting', running'⟩ := ih others
    refine ⟨waiting'.trans waiting, ?_⟩
    rw [running', running, List.filter_filter]
    simp [Bool.and_comm]

/-- Taking and finishing every job leaves none. -/
private theorem Follows.taking_all (free : 0 < limit) (idle : pool.running = [])
    (follows : Follows crawler around page limit pool course
      (pool.waiting.flatMap fun (index, _) => .take :: Pool.finishing index) last done) :
    last.waiting = [] ∧ last.running = [] := by
  induction waiting : pool.waiting generalizing pool course with
  | nil =>
    rw [waiting] at follows
    cases follows
    exact ⟨waiting, idle⟩
  | cons first rest ih =>
    obtain ⟨index, link⟩ := first
    rw [waiting, List.flatMap_cons] at follows
    obtain ⟨middle, after, begins, ends⟩ := follows.of_append
    obtain _ | ⟨take, finishes⟩ := begins
    cases take with
    | full full => simp [waiting, idle, Nat.not_le.mpr free] at full
    | take found =>
      obtain ⟨⟨rfl, rfl⟩, rfl⟩ : (_ ∧ _) ∧ _ := by simpa [waiting] using found
      obtain ⟨others, running⟩ := finishes.finishing
      have others : middle.waiting = rest := others
      have idle : middle.running = [] := by
        rw [running, idle]
        simp
      rw [← others] at ends
      exact ih idle ends others

/-- Draining leaves no link waiting and no worker running. -/
theorem Follows.draining (free : 0 < limit)
    (follows : Follows crawler around page limit pool course pool.draining last done) :
    last.waiting = [] ∧ last.running = [] := by
  obtain ⟨middle, after, finishes, takes⟩ := follows.of_append
  obtain ⟨waiting, running⟩ := finishes.finishing_all
  have idle : middle.running = [] := by
    rw [running, List.filter_eq_nil_iff]
    intro job member
    simpa using ⟨job, member, rfl⟩
  rw [← waiting] at takes
  exact takes.taking_all free idle

/-! ## How many workers there are -/

/-- No move lets more jobs run than there may be. -/
private theorem Moves.running_le (bounded : pool.running.length ≤ limit) {step : WorkerStep}
    (moves : Moves crawler around page limit pool course step next after) :
    next.running.length ≤ limit := by
  have staged (index : Nat) (stage : Stage) :
      (pool.setStage index stage).running.length ≤ limit := by
    rwa [setStage, List.length_map]
  cases moves with
  | full => exact bounded
  | take first free =>
    rw [List.length_append]
    exact free
  | stop => exact staged _ _
  | clear => exact staged _ _
  | fetch => exact staged _ _
  | finish =>
    rw [running_handIn]
    exact Nat.le_trans (List.length_filter_le _ _) bounded
  | passCheck => exact bounded
  | passFetch => exact bounded
  | passFinish => exact bounded
  | cancel => exact bounded

private theorem Follows.running_le (bounded : pool.running.length ≤ limit)
    {schedule : List WorkerStep}
    (follows : Follows crawler around page limit pool course schedule next after) :
    next.running.length ≤ limit := by
  induction follows with
  | nil => exact bounded
  | cons moves _ ih => exact ih (moves.running_le bounded)

variable (crawler around page limit) in
/-- No more links are in flight than there may be workers, whatever steps were taken. -/
theorem steps_running_le (links : List String) (schedule : List WorkerStep)
    (activity : Activity τ) :
    (((ofLinks links).steps crawler around page limit schedule).run activity).1.running.length ≤
      limit := by
  obtain ⟨last, done, leads, follows⟩ :=
    steps_follows crawler around page limit (ofLinks links) activity.toCourse schedule
  have none : (ofLinks links).running.length ≤ limit := Nat.zero_le limit
  rw [leads.run_fst]
  exact follows.running_le none

end

end Pool

end PageHarvest
