import PageHarvest.Proofs.Crawl.Visit

/-! # Crawls in step

Two crawls of one seed, perhaps under different deadlines and in different surroundings, stay in
step if related courses have the same reason to stop and the same answers, and are related again
after each look and each fetch. Crawls in step give the same outcome, with workers and without.
-/

namespace PageHarvest

variable {τ α β : Type}

/-- Two pieces of work that lead from related courses to the same value and to related courses. -/
def InStep (related : Course τ → Course τ → Prop) (one other : StateM (Activity τ) α) : Prop :=
  ∀ course course', related course course' → ∃ value after after',
    Leads one course value after ∧ Leads other course' value after' ∧ related after after'

namespace InStep

variable {related : Course τ → Course τ → Prop}

private theorem pure (value : α) :
    InStep related (Pure.pure value : StateM (Activity τ) α) (Pure.pure value) :=
  fun course course' relates => ⟨value, course, course', .pure _ _, .pure _ _, relates⟩

private theorem bind {one other : StateM (Activity τ) α} {next next' : α → StateM (Activity τ) β}
    (first : InStep related one other)
    (second : ∀ value, InStep related (next value) (next' value)) :
    InStep related (one >>= next) (other >>= next') := by
  intro course course' relates
  obtain ⟨value, middle, middle', begins, begins', relates⟩ := first course course' relates
  obtain ⟨result, after, after', ends, ends', relates⟩ := second value middle middle' relates
  exact ⟨result, after, after', begins.bind ends, begins'.bind ends', relates⟩

private theorem run_pure (value : α) :
    InStep related (Pure.pure value : Crawling τ α).run (Pure.pure value : Crawling τ α).run :=
  pure _

private theorem run_throw (abort : Abort) :
    InStep related (throw abort : Crawling τ α).run (throw abort : Crawling τ α).run :=
  pure _

private theorem run_bind {one other : Crawling τ α} {next next' : α → Crawling τ β}
    (first : InStep related one.run other.run)
    (second : ∀ value, InStep related (next value).run (next' value).run) :
    InStep related (one >>= next).run (other >>= next').run := by
  rw [ExceptT.run_bind, ExceptT.run_bind]
  refine first.bind fun outcome => ?_
  cases outcome with
  | error abort => exact pure _
  | ok value => exact second value

private theorem run_lift {one other : StateM (Activity τ) α} (inStep : InStep related one other) :
    InStep related (liftM one : Crawling τ α).run (liftM other : Crawling τ α).run := by
  intro course course' relates
  obtain ⟨value, after, after', leads, leads', relates⟩ := inStep course course' relates
  exact ⟨.ok value, after, after', .run_lift leads, .run_lift leads', relates⟩

private theorem run_ite {condition : Prop} [Decidable condition]
    {one one' other other' : Crawling τ α}
    (yes : condition → InStep related one.run one'.run)
    (no : ¬condition → InStep related other.run other'.run) :
    InStep related (if condition then one else other).run
      (if condition then one' else other').run := by
  split
  · exact yes ‹_›
  · exact no ‹_›

/-- Work that stays on its course is in step with itself. -/
theorem still {work : StateM (Activity τ) α} {value : α}
    (stays : ∀ course, Leads work course value course) : InStep related work work :=
  fun course course' relates => ⟨value, course, course', stays course, stays course', relates⟩

private theorem note (source : Journal.Source) (level : Journal.Level) (text : String) :
    InStep related (Crawling.note source level text : Crawling τ Unit).run
      (Crawling.note source level text : Crawling τ Unit).run :=
  still (Crawling.leads_note source level text)

end InStep

/-- The same crawler under another deadline. -/
def Crawler.within (crawler : Crawler τ) (deadline : Option τ) : Crawler τ :=
  { crawler with deadline }

/-- Courses of two crawls that keep in step: they see the same reason to stop and get the same
answers, and looking, fetching and the cancelling of workers keep them related. Workers take the
same steps. -/
structure KeepsStep (crawler : Crawler τ) (deadline : Option τ) (around around' : Surroundings τ)
    (related : Course τ → Course τ → Prop) : Prop where
  reason : ∀ course course', related course course' →
    crawler.reasonOn around course = (crawler.within deadline).reasonOn around' course'
  looked : ∀ course course', related course course' →
    related (crawler.looked around course) ((crawler.within deadline).looked around' course')
  answer : ∀ course course', related course course' →
    ∀ url, around.answerOn course url = around'.answerOn course' url
  asked : ∀ course course', related course course' →
    ∀ url, related (around.asked url course) (around'.asked url course')
  cancelled : ∀ page, .cancel ∈ around.steps page → ∀ course course', related course course' →
    related { course with cancelled := true } { course' with cancelled := true }
  steps : crawler.parallel = true → ∀ page, around'.steps page = around.steps page

namespace KeepsStep

variable {crawler : Crawler τ} {deadline : Option τ} {around around' : Surroundings τ}
  {related : Course τ → Course τ → Prop}
  (keeps : KeepsStep crawler deadline around around' related)

include keeps

private theorem stopReason :
    InStep related (crawler.stopReason around).run
      ((crawler.within deadline).stopReason around').run := by
  intro course course' relates
  refine ⟨_, _, _, crawler.leads_stopReason around course, ?_, keeps.looked _ _ relates⟩
  rw [keeps.reason _ _ relates]
  exact (crawler.within deadline).leads_stopReason around' course'

private theorem ask (url : String) :
    InStep related (Crawling.ask around url).run (Crawling.ask around' url).run := by
  intro course course' relates
  refine ⟨_, _, _, Crawling.leads_ask around url course, ?_, keeps.asked _ _ relates url⟩
  rw [keeps.answer _ _ relates]
  exact Crawling.leads_ask around' url course'

private theorem fetchLink (page : Nat) (link : String) :
    InStep related (crawler.fetchLink around page link).run
      ((crawler.within deadline).fetchLink around' page link).run := by
  intro course course' relates
  refine ⟨_, _, _, crawler.leads_fetchLink around page link course, ?_,
    keeps.asked _ _ relates link⟩
  rw [keeps.answer _ _ relates]
  exact (crawler.within deadline).leads_fetchLink around' page link course'

private theorem processLink (page : Nat) (link : String) :
    InStep related (crawler.processLink around page link).run
      ((crawler.within deadline).processLink around' page link).run := by
  refine keeps.stopReason.run_bind fun reason => ?_
  cases reason with
  | some reason => exact .run_pure _
  | none => exact keeps.fetchLink page link

private theorem processInTurn (page : Nat) (links : List String) :
    InStep related (crawler.processInTurn around page links).run
      ((crawler.within deadline).processInTurn around' page links).run := by
  induction links with
  | nil => exact .run_pure _
  | cons link rest ih =>
    exact (keeps.processLink page link).run_bind fun _ => ih.run_bind fun _ => .run_pure _

/-- A step of a pool keeps two courses related. -/
private theorem poolStep (page limit : Nat) (pool : Pool) {step : WorkerStep}
    (cancelled : step = .cancel → ∀ course course', related course course' →
      related { course with cancelled := true } { course' with cancelled := true }) :
    InStep related (pool.step crawler around page limit step)
      (pool.step (crawler.within deadline) around' page limit step) := by
  cases step with
  | take =>
    rw [Pool.step, Pool.step]
    split
    · split
      · exact .pure _
      · exact .pure _
    · exact .pure _
  | check index =>
    rw [Pool.step, Pool.step]
    rcases pool.job? index with _ | ⟨place, link, _ | _ | decision⟩
    · exact .pure _
    · refine keeps.stopReason.bind fun looked => ?_
      obtain abort | _ | reason := looked
      · exact .pure _
      · exact .pure _
      · exact .pure _
    · exact .pure _
    · exact .pure _
  | fetch index =>
    rw [Pool.step, Pool.step]
    rcases pool.job? index with _ | ⟨place, link, _ | _ | decision⟩
    · exact .pure _
    · exact .pure _
    · exact (keeps.fetchLink page link).bind fun _ => .pure _
    · exact .pure _
  | finish index =>
    rw [Pool.step, Pool.step]
    rcases pool.job? index with _ | ⟨place, link, _ | _ | decision⟩
    · exact .pure _
    · exact .pure _
    · exact .pure _
    · exact .pure _
  | cancel =>
    exact fun course course' relates => ⟨pool, _, _, fun journal => ⟨journal, rfl⟩,
      fun journal => ⟨journal, rfl⟩, cancelled rfl course course' relates⟩

private theorem poolSteps (page limit : Nat) (pool : Pool) {schedule : List WorkerStep}
    (cancelled : .cancel ∈ schedule → ∀ course course', related course course' →
      related { course with cancelled := true } { course' with cancelled := true }) :
    InStep related (pool.steps crawler around page limit schedule)
      (pool.steps (crawler.within deadline) around' page limit schedule) := by
  induction schedule generalizing pool with
  | nil => exact .pure _
  | cons step rest ih =>
    refine (keeps.poolStep page limit pool fun same => ?_).bind fun next => ih next fun later => ?_
    · exact cancelled (same ▸ List.mem_cons_self)
    · exact cancelled (List.mem_cons_of_mem _ later)

private theorem processOnPool (parallel : crawler.parallel = true) (page : Nat)
    (links : List String) :
    InStep related (crawler.processOnPool around page links).run
      ((crawler.within deadline).processOnPool around' page links).run := by
  have run (limit : Nat) : InStep related
      ((Pool.ofLinks links).run crawler around page limit (around.steps page))
      ((Pool.ofLinks links).run (crawler.within deadline) around' page limit
        (around'.steps page)) := by
    rw [keeps.steps parallel]
    exact (keeps.poolSteps page limit _ (keeps.cancelled page)).bind fun pool =>
      keeps.poolSteps page limit pool fun cancels => absurd cancels pool.cancel_not_mem_draining
  refine (InStep.run_lift (run _)).run_bind fun pool => ?_
  cases pool.firstAbort? with
  | some abort => exact .run_throw abort
  | none => exact .run_pure _

private theorem crawlPage (html : String) (page : Nat) :
    InStep related (crawler.crawlPage around html page).run
      ((crawler.within deadline).crawlPage around' html page).run := by
  refine (InStep.still (crawler.leads_discoverLinks html)).run_bind fun links => ?_
  refine (InStep.note _ _ _).run_bind fun _ => ?_
  refine .run_ite (fun _ => .run_pure _) fun _ => ?_
  exact .run_ite (fun parallel => keeps.processOnPool parallel page links)
    fun _ => keeps.processInTurn page links

private theorem visitDue (page : Nat) (result : CrawlResult) :
    InStep related (crawler.visitDue around page result).run
      ((crawler.within deadline).visitDue around' page result).run := by
  refine keeps.stopReason.run_bind fun reason => ?_
  cases reason with
  | some reason => exact (InStep.note _ _ _).run_bind fun _ => .run_pure _
  | none =>
    refine (keeps.ask _).run_bind fun answer => ?_
    cases answer with
    | crashed crash => exact .run_throw _
    | failed failure =>
      refine .run_ite (fun _ => (InStep.run_throw _).run_bind fun _ => ?_) fun _ => ?_
      · exact (InStep.note _ _ _).run_bind fun _ => .run_pure _
      · exact (InStep.note _ _ _).run_bind fun _ => .run_pure _
    | document html =>
      refine (keeps.crawlPage html page).run_bind fun outcomes => ?_
      refine .run_ite (fun _ => ?_) fun _ => .run_pure _
      exact (InStep.note _ _ _).run_bind fun _ => .run_pure _

private theorem visit (page : Nat) (result : CrawlResult) :
    InStep related (crawler.visit around page result).run
      ((crawler.within deadline).visit around' page result).run :=
  .run_ite (fun _ => keeps.visitDue page result) fun _ => .run_pure _

/-- Two crawls whose courses are related walk in step. -/
theorem walk (limit page : Nat) (result : CrawlResult) :
    InStep related (crawler.walk around limit page result).run
      ((crawler.within deadline).walk around' limit page result).run := by
  induction limit generalizing page result with
  | zero => exact .run_pure _
  | succ limit ih =>
    refine (keeps.visit page result).run_bind fun turn => ?_
    cases turn with
    | done result => exact .run_pure _
    | next result => exact ih (page + 1) result

/-- Runs that begin on related courses give the same outcome. -/
theorem run (limit : Nat) {activity activity' : Activity τ}
    (begins : related (Crawler.started around activity.toCourse)
      (Crawler.started around' activity'.toCourse)) :
    (Crawling.runOn (crawler.run around limit) activity).1 =
      (Crawling.runOn ((crawler.within deadline).run around' limit) activity').1 := by
  obtain ⟨outcome, after, after', walks, walks', -⟩ := keeps.walk limit 0 {} _ _ begins
  have runs := (crawler.leads_run around walks).run_fst
  have runs' := ((crawler.within deadline).leads_run around' walks').run_fst
  exact runs.trans runs'.symm

end KeepsStep

end PageHarvest
