import Mathlib.Data.List.Perm.Basic
import PageHarvest.Proofs.Crawl.Moves

/-! # The ledger of a pool

While workers go about the links of a page, a ledger holds the links that were dealt with. Each
link of the page waits, is worked on, or stands in the ledger, and each decision of the ledger is
with its worker or was handed in. Every move keeps such a ledger, so the pool of a page, whatever
its schedule, ends with the account that taking the links in turn would give.
-/

namespace PageHarvest

variable {τ : Type}

namespace Job

/-- The place and link of a job that is not decided. -/
def open? (job : Job) : Option (Nat × String) :=
  match job.stage with
  | .taken | .cleared => some (job.index, job.link)
  | .decided _ => none

/-- The place and decision of a job that is decided. -/
def decided? (job : Job) : Option (Nat × Except Abort LinkOutcome) :=
  match job.stage with
  | .taken | .cleared => none
  | .decided decision => some (job.index, decision)

/-- The place and link of a job that may fetch. -/
def cleared? (job : Job) : Option (Nat × String) :=
  match job.stage with
  | .cleared => some (job.index, job.link)
  | .taken | .decided _ => none

variable {job : Job}

private theorem cleared?_of_cleared (stage : job.stage = .cleared) :
    job.cleared? = some (job.index, job.link) := by
  rw [cleared?, stage]

private theorem cleared?_of_taken (stage : job.stage = .taken) : job.cleared? = none := by
  rw [cleared?, stage]

private theorem cleared?_of_decided {decision : Except Abort LinkOutcome}
    (stage : job.stage = .decided decision) : job.cleared? = none := by
  rw [cleared?, stage]

private theorem open?_of_undecided (undecided : job.stage = .taken ∨ job.stage = .cleared) :
    job.open? = some (job.index, job.link) := by
  rcases undecided with stage | stage <;> rw [open?, stage]

private theorem decided?_of_undecided (undecided : job.stage = .taken ∨ job.stage = .cleared) :
    job.decided? = none := by
  rcases undecided with stage | stage <;> rw [decided?, stage]

private theorem open?_of_decided {decision : Except Abort LinkOutcome}
    (stage : job.stage = .decided decision) : job.open? = none := by
  rw [open?, stage]

private theorem decided?_of_decided {decision : Except Abort LinkOutcome}
    (stage : job.stage = .decided decision) : job.decided? = some (job.index, decision) := by
  rw [decided?, stage]

end Job

/-- A link that was dealt with, and its place on the page. -/
structure Entry where
  index : Nat
  handled : Handled

namespace Entry

/-- The place and the link. -/
def place (entry : Entry) : Nat × String := (entry.index, entry.handled.link)

/-- The place and the link, if it was fetched. -/
def answered? (entry : Entry) : Option (Nat × String) :=
  match entry.handled.treatment with
  | .abandoned _ => none
  | .answered _ => some entry.place

/-- The place and what becomes of the link. -/
def decided (crawler : Crawler τ) (page : Nat) (entry : Entry) : Nat × Except Abort LinkOutcome :=
  (entry.index, crawler.decision page entry.handled)

end Entry

namespace Pool

/-- What was handed in to a pool. -/
def handedIn (pool : Pool) : List (Nat × Except Abort LinkOutcome) :=
  pool.outcomes.map (fun (index, outcome) => (index, .ok outcome)) ++
    pool.aborts.map fun (index, abort) => (index, .error abort)

/-- The places and links of the jobs that may fetch. -/
def cleared (pool : Pool) : List (Nat × String) :=
  pool.running.filterMap Job.cleared?

/-- What a move deals with: it abandons links only for the reason that there is, and while there is
one, it clears no link. -/
structure Deals (crawler : Crawler τ) (around : Surroundings τ) (pool : Pool) (course : Course τ)
    (next : Pool) (more : List Entry) : Prop where
  abandoned : ∀ entry ∈ more, ∀ reason, entry.handled.treatment = .abandoned reason →
    crawler.reasonOn around course = some reason
  cleared : crawler.reasonOn around course ≠ none →
    (next.cleared ++ more.filterMap Entry.answered?).Perm pool.cleared

/-- The links that were dealt with since the page began, with their places. -/
structure Ledger (crawler : Crawler τ) (around : Surroundings τ) (page : Nat)
    (links : List String) (start : Course τ) (pool : Pool) (course : Course τ)
    (entries : List Entry) : Prop where
  distinct : (pool.waiting.map Prod.fst ++ pool.running.map Job.index).Nodup
  places : (pool.waiting ++ pool.running.filterMap Job.open? ++
    entries.map Entry.place).Perm (ofLinks links).waiting
  decisions : (pool.handedIn ++ pool.running.filterMap Job.decided?).Perm
    (entries.map (Entry.decided crawler page))
  fits : ∀ entry ∈ entries,
    entry.handled.Fits around (Undisturbed crawler around ∧ start.cancelled = false)
  fetches : Fetches around False start course (entries.flatMap (·.handled.fetches))
  running : Undisturbed crawler around → start.cancelled = false → course.cancelled = false

section

variable {crawler : Crawler τ} {around : Surroundings τ} {page limit : Nat} {links : List String}
  {start course after : Course τ} {pool next : Pool} {entries : List Entry}

/-- The jobs that wait are numbered without a gap. -/
theorem waiting_indices (links : List String) :
    (ofLinks links).waiting.map Prod.fst = List.range links.length := by
  rw [ofLinks, List.map_map, List.range_eq_range']
  exact List.zipIdx_map_snd 0 links

theorem waiting_links (links : List String) :
    (ofLinks links).waiting.map Prod.snd = links := by
  rw [ofLinks, List.map_map]
  exact List.zipIdx_map_fst 0 links

/-- A pool that nothing has happened to has an empty ledger. -/
theorem ledger_start (links : List String) (start : Course τ) :
    Ledger crawler around page links start (ofLinks links) start [] where
  distinct := by
    rw [waiting_indices]
    simpa [ofLinks] using List.nodup_range
  places := by simp [ofLinks]
  decisions := .refl _
  fits := nofun
  fetches := .none rfl
  running := fun _ running => running

/-- The job at an index stands at one place among the workers. -/
theorem exists_split (distinct : (pool.running.map Job.index).Nodup) {index : Nat} {job : Job}
    (found : pool.job? index = some job) :
    ∃ front back, pool.running = front ++ job :: back ∧
      pool.running.filter (·.index != index) = front ++ back ∧
      ∀ stage, (pool.setStage index stage).running = front ++ { job with stage } :: back := by
  obtain ⟨same, front, back, split, others⟩ := List.find?_eq_some_iff_append.mp found
  have same : job.index = index := by simpa using same
  have absentFront : ∀ other ∈ front, other.index ≠ index := fun other member => by
    simpa using others other member
  have absentBack : ∀ other ∈ back, other.index ≠ index := by
    rw [split, List.map_append, List.map_cons] at distinct
    intro other member equal
    have fresh := (List.nodup_cons.mp (List.nodup_append.mp distinct).2.1).1
    exact fresh (List.mem_map.mpr ⟨other, member, equal.trans same.symm⟩)
  refine ⟨front, back, split, ?_, fun stage => ?_⟩
  · rw [split, List.filter_append, List.filter_cons_of_neg (by simpa using same),
      List.filter_eq_self.mpr fun other member => by simpa using absentFront other member,
      List.filter_eq_self.mpr fun other member => by simpa using absentBack other member]
  · have keep : ∀ jobs : List Job, (∀ other ∈ jobs, other.index ≠ index) →
        jobs.map (fun job => if job.index = index then { job with stage } else job) = jobs := by
      intro jobs others
      refine (List.map_congr_left fun other member => if_neg (others other member)).trans ?_
      exact List.map_id jobs
    simp only [setStage, split, List.map_append, List.map_cons, same, if_true,
      keep front absentFront, keep back absentBack]

/-! ## Moves -/

private theorem perm_toEnd {α : Type} (front back : List α) (one : α) :
    (front ++ one :: back).Perm (front ++ back ++ [one]) :=
  List.perm_middle.trans (List.perm_append_singleton one (front ++ back)).symm

private theorem running_distinct
    (ledger : Ledger crawler around page links start pool course entries) :
    (pool.running.map Job.index).Nodup :=
  (List.nodup_append.mp ledger.distinct).2.1

private theorem perm_across {α : Type} (waiting front back more : List α) (one : α) :
    (waiting ++ (front ++ back) ++ (more ++ [one])).Perm
      (waiting ++ (front ++ one :: back) ++ more) := by
  rw [← List.append_assoc, ← List.append_assoc waiting, ← List.append_assoc waiting]
  refine (List.perm_append_singleton one _).trans ?_
  exact (List.perm_middle.append_right more).symm

private theorem indices_setStage (pool : Pool) (index : Nat) (stage : Stage) :
    (pool.setStage index stage).running.map Job.index = pool.running.map Job.index := by
  rw [setStage, List.map_map]
  refine List.map_congr_left fun job _ => ?_
  rw [Function.comp_apply]
  split <;> rfl

private theorem handedIn_handIn (pool : Pool) (index : Nat) (decision : Except Abort LinkOutcome) :
    (pool.handIn index decision).handedIn.Perm (pool.handedIn ++ [(index, decision)]) := by
  cases decision with
  | ok outcome =>
    rw [handedIn, handedIn, handIn, List.map_append, List.append_assoc, List.append_assoc]
    exact List.perm_append_comm.append_left _
  | error abort =>
    rw [handedIn, handedIn, handIn, List.map_append, List.append_assoc]
    exact .refl _

/-- Taking a job moves its entry from those that wait to those at work. -/
private theorem Ledger.take (ledger : Ledger crawler around page links start pool course entries)
    {index : Nat} {link : String} {waiting : List (Nat × String)}
    (first : pool.waiting = (index, link) :: waiting) :
    Ledger crawler around page links start
      { pool with waiting, running := pool.running ++ [{ index, link }] } course entries where
  distinct := by
    have distinct := ledger.distinct
    rw [first, List.map_cons, List.cons_append] at distinct
    refine (List.Perm.nodup_iff ?_).mp distinct
    rw [List.map_append, ← List.append_assoc]
    exact (List.perm_append_singleton index _).symm
  places := by
    refine List.Perm.trans (List.Perm.append_right _ ?_) ledger.places
    rw [first, List.filterMap_append, ← List.append_assoc]
    exact List.perm_append_singleton (index, link) _
  decisions := by
    rw [List.filterMap_append, List.filterMap_cons_none (by rfl),
      List.filterMap_nil, List.append_nil]
    exact ledger.decisions
  fits := ledger.fits
  fetches := ledger.fetches
  running := ledger.running

private theorem Ledger.clear (ledger : Ledger crawler around page links start pool course entries)
    {index : Nat} {job : Job} (found : pool.job? index = some job) (taken : job.stage = .taken)
    (same : after.fetched = course.fetched)
    (running : Undisturbed crawler around → course.cancelled = false → after.cancelled = false) :
    Ledger crawler around page links start (pool.setStage index .cleared) after entries := by
  obtain ⟨front, back, split, -, staged⟩ := exists_split (running_distinct ledger) found
  constructor
  · rw [indices_setStage]
    exact ledger.distinct
  · have places := ledger.places
    rw [split, List.filterMap_append,
      List.filterMap_cons_some (Job.open?_of_undecided (.inl taken))] at places
    rw [staged, List.filterMap_append, List.filterMap_cons_some (Job.open?_of_undecided (.inr rfl))]
    exact places
  · have decisions := ledger.decisions
    rw [split, List.filterMap_append,
      List.filterMap_cons_none (Job.decided?_of_undecided (.inl taken))] at decisions
    rw [staged, List.filterMap_append,
      List.filterMap_cons_none (Job.decided?_of_undecided (.inr rfl))]
    exact decisions
  · exact ledger.fits
  · have fetches := ledger.fetches.trans (.none same)
    rwa [List.append_nil] at fetches
  · exact fun calm begun => running calm (ledger.running calm begun)

/-- Deciding on a job fixes how its link is handled. -/
private theorem Ledger.decide (ledger : Ledger crawler around page links start pool course entries)
    {index : Nat} {job : Job} (found : pool.job? index = some job)
    (undecided : job.stage = .taken ∨ job.stage = .cleared) {treatment : Treatment}
    (fits : Handled.Fits around (Undisturbed crawler around ∧ start.cancelled = false)
      ⟨job.link, treatment⟩)
    (fetches : Fetches around False course after (Handled.fetches ⟨job.link, treatment⟩))
    (running : Undisturbed crawler around → course.cancelled = false → after.cancelled = false) :
    Ledger crawler around page links start
      (pool.setStage index (.decided (crawler.decision page ⟨job.link, treatment⟩))) after
      (entries ++ [⟨index, job.link, treatment⟩]) := by
  obtain ⟨front, back, split, -, staged⟩ := exists_split (running_distinct ledger) found
  have atIndex : job.index = index := job?_index found
  constructor
  · rw [indices_setStage]
    exact ledger.distinct
  · have places := ledger.places
    rw [split, List.filterMap_append,
      List.filterMap_cons_some (Job.open?_of_undecided undecided)] at places
    rw [staged, List.filterMap_append, List.filterMap_cons_none (Job.open?_of_decided rfl),
      List.map_append, ← atIndex]
    exact (perm_across _ _ _ _ (job.index, job.link)).trans places
  · have decisions := ledger.decisions
    rw [split, List.filterMap_append,
      List.filterMap_cons_none (Job.decided?_of_undecided undecided)] at decisions
    rw [staged, List.filterMap_append,
      List.filterMap_cons_some (Job.decided?_of_decided rfl), List.map_append, ← atIndex]
    refine List.Perm.trans ?_ (decisions.append_right _)
    rw [← List.append_assoc, ← List.append_assoc]
    exact perm_toEnd _ _ _
  · intro entry member
    rcases List.mem_append.mp member with earlier | last
    · exact ledger.fits entry earlier
    · rw [List.mem_singleton.mp last]
      exact fits
  · rw [List.flatMap_append, List.flatMap_singleton]
    exact ledger.fetches.trans fetches
  · exact fun calm begun => running calm (ledger.running calm begun)

theorem Ledger.cancel (ledger : Ledger crawler around page links start pool course entries)
    (disturbed : ¬Undisturbed crawler around) :
    Ledger crawler around page links start pool { course with cancelled := true } entries :=
  { ledger with
    fetches := ledger.fetches
    running := fun calm => absurd calm disturbed }

/-- Handing a decision in moves its entry to those that are done. -/
private theorem Ledger.handIn (ledger : Ledger crawler around page links start pool course entries)
    {index : Nat} {job : Job} (found : pool.job? index = some job)
    {decision : Except Abort LinkOutcome} (decided : job.stage = .decided decision) :
    Ledger crawler around page links start (pool.handIn index decision) course entries := by
  obtain ⟨front, back, split, removed, -⟩ := exists_split (running_distinct ledger) found
  have atIndex : job.index = index := job?_index found
  have waiting : (pool.handIn index decision).waiting = pool.waiting := by cases decision <;> rfl
  have running : (pool.handIn index decision).running = front ++ back :=
    (running_handIn pool index decision).trans removed
  constructor
  · have distinct := ledger.distinct
    rw [split] at distinct
    rw [waiting, running]
    refine distinct.sublist (List.Sublist.append_left ?_ _)
    exact ((List.sublist_cons_self job back).append_left front).map Job.index
  · have places := ledger.places
    rw [split, List.filterMap_append,
      List.filterMap_cons_none (Job.open?_of_decided decided), ← List.filterMap_append] at places
    rwa [waiting, running]
  · have decisions := ledger.decisions
    rw [split, List.filterMap_append,
      List.filterMap_cons_some (Job.decided?_of_decided decided), atIndex] at decisions
    rw [running, List.filterMap_append]
    refine List.Perm.trans ?_ decisions
    refine ((handedIn_handIn pool index decision).append_right _).trans ?_
    rw [List.append_assoc, List.singleton_append]
    exact List.perm_middle.symm.append_left _
  · exact ledger.fits
  · exact ledger.fetches
  · exact ledger.running

private theorem deals_nothing (same : next.cleared = pool.cleared) :
    Deals crawler around pool course next [] where
  abandoned := nofun
  cleared _ := by
    rw [same]
    exact .of_eq (List.append_nil _)

/-- Every move keeps a ledger. -/
theorem Ledger.moves (ledger : Ledger crawler around page links start pool course entries)
    {step : WorkerStep} (undisturbed : Undisturbed crawler around → step ≠ .cancel)
    (moves : Moves crawler around page limit pool course step next after) :
    ∃ more, Ledger crawler around page links start next after (entries ++ more) ∧
      Deals crawler around pool course next more := by
  have kept : entries ++ [] = entries := List.append_nil entries
  cases moves with
  | full => exact ⟨[], kept.symm ▸ ledger, deals_nothing rfl⟩
  | take first free =>
    refine ⟨[], kept.symm ▸ ledger.take first, deals_nothing ?_⟩
    rw [cleared, List.filterMap_append, List.filterMap_cons_none (Job.cleared?_of_taken rfl)]
    exact List.append_nil _
  | @stop index job reason found taken reasoned =>
    obtain ⟨front, back, split, -, staged⟩ := exists_split (running_distinct ledger) found
    have fits : Handled.Fits around (Undisturbed crawler around ∧ start.cancelled = false)
        ⟨job.link, .abandoned reason⟩ := by
      rintro ⟨calm, begun⟩
      rw [Crawler.reasonOn_eq_none calm (ledger.running calm begun)] at reasoned
      cases reasoned
    refine ⟨_, ledger.decide found (.inl taken) fits (.none rfl) fun calm running =>
      Crawler.looked_cancelled calm running, ?_, fun _ => ?_⟩
    · intro entry member other same
      rw [List.mem_singleton.mp member] at same
      cases same
      exact reasoned
    · rw [cleared, cleared, staged, split, List.filterMap_append, List.filterMap_append,
        List.filterMap_cons_none (Job.cleared?_of_decided rfl),
        List.filterMap_cons_none (Job.cleared?_of_taken taken)]
      exact .of_eq (List.append_nil _)
  | clear found taken unreasoned =>
    refine ⟨[], kept.symm ▸ ledger.clear found taken rfl fun calm running =>
      Crawler.looked_cancelled calm running, nofun, fun reasoned => absurd unreasoned reasoned⟩
  | @fetch index job found cleared =>
    obtain ⟨front, back, split, -, staged⟩ := exists_split (running_distinct ledger) found
    have atIndex : job.index = index := job?_index found
    refine ⟨_, ledger.decide found (.inr cleared) ⟨_, rfl⟩ (.asked _ _) fun calm running =>
      Crawler.asked_cancelled calm _ running, ?_, fun _ => ?_⟩
    · intro entry member other same
      rw [List.mem_singleton.mp member] at same
      cases same
    · rw [Pool.cleared, Pool.cleared, staged, split, List.filterMap_append, List.filterMap_append,
        List.filterMap_cons_none (Job.cleared?_of_decided rfl),
        List.filterMap_cons_some (Job.cleared?_of_cleared cleared), atIndex]
      exact (perm_toEnd _ _ _).symm
  | @finish index job decision found decided =>
    obtain ⟨front, back, split, removed, -⟩ := exists_split (running_distinct ledger) found
    refine ⟨[], kept.symm ▸ ledger.handIn found decided, deals_nothing ?_⟩
    rw [cleared, cleared, running_handIn, removed, split, List.filterMap_append,
      List.filterMap_append, List.filterMap_cons_none (Job.cleared?_of_decided decided)]
  | passCheck => exact ⟨[], kept.symm ▸ ledger, deals_nothing rfl⟩
  | passFetch => exact ⟨[], kept.symm ▸ ledger, deals_nothing rfl⟩
  | passFinish => exact ⟨[], kept.symm ▸ ledger, deals_nothing rfl⟩
  | cancel =>
    exact ⟨[], kept.symm ▸ ledger.cancel fun calm => undisturbed calm rfl, deals_nothing rfl⟩

/-- Every schedule keeps a ledger. -/
theorem Ledger.follows (ledger : Ledger crawler around page links start pool course entries)
    {schedule : List WorkerStep} (undisturbed : Undisturbed crawler around → .cancel ∉ schedule)
    (follows : Follows crawler around page limit pool course schedule next after) :
    ∃ entries, Ledger crawler around page links start next after entries := by
  induction follows generalizing entries with
  | nil => exact ⟨entries, ledger⟩
  | cons moves follows ih =>
    obtain ⟨more, ledger, -⟩ := ledger.moves
      (fun calm same => undisturbed calm (same ▸ List.mem_cons_self)) moves
    exact ih ledger fun calm member => undisturbed calm (List.mem_cons_of_mem _ member)

theorem cancel_not_mem_draining (pool : Pool) : .cancel ∉ pool.draining := by
  simp [draining, finishing]

/-! ## Pools at their end -/

section

variable (ledger : Ledger crawler around page links start pool course entries)
  (idle : pool.waiting = [] ∧ pool.running = [])

include ledger idle

/-- When all is idle, the ledger has an entry for every link. -/
theorem Ledger.places_of_idle : (entries.map Entry.place).Perm (ofLinks links).waiting := by
  have places := ledger.places
  rwa [idle.1, idle.2, List.filterMap_nil, List.nil_append, List.nil_append] at places

/-- When all is idle, the ledger's decisions are those that were handed in. -/
theorem Ledger.decisions_of_idle :
    pool.handedIn.Perm (entries.map (Entry.decided crawler page)) := by
  have decisions := ledger.decisions
  rwa [idle.2, List.filterMap_nil, List.append_nil] at decisions

end

/-- A pool that was run to its end has handed in what its ledger holds, each link once. -/
theorem run_ledger (crawler : Crawler τ) (around : Surroundings τ) (page : Nat)
    (links : List String) (course : Course τ) (free : 0 < limit) :
    ∃ last done entries,
      Leads ((ofLinks links).run crawler around page limit (around.steps page)) course last done ∧
      Ledger crawler around page links course last done entries ∧
      last.waiting = [] ∧ last.running = [] := by
  obtain ⟨middle, after, last, done, leads, follows, drains⟩ :=
    run_follows crawler around page limit (ofLinks links) course (around.steps page)
  obtain ⟨entries, ledger⟩ :=
    (ledger_start links course).follows (fun calm => calm.steps page) follows
  obtain ⟨entries, ledger⟩ := ledger.follows (fun _ => middle.cancel_not_mem_draining) drains
  exact ⟨last, done, entries, leads, ledger, drains.draining free⟩

end

end Pool

end PageHarvest
