import PageHarvest.Proofs.Crawl.Account

/-! # Visiting pages

A page that is due is fetched unless there is a reason to stop. What a visit comes to is one of six
cases, and a run is a start followed by visits until one of them ends it.
-/

namespace PageHarvest

variable {τ : Type}

namespace Crawler

variable (crawler : Crawler τ) (around : Surroundings τ)

/-- The address of a page. -/
def pageUrl (page : Nat) : String := crawler.paging.url crawler.baseUrl page

/-- The course once a page was asked for. -/
def pageAsked (page : Nat) (course : Course τ) : Course τ :=
  around.asked (crawler.pageUrl page) (crawler.looked around course)

/-- How the walk goes on after a page that could not be had. -/
def turnWithout (result : CrawlResult) (failure : FetchFailure) (page : Nat) : Except Abort Turn :=
  if page = 0 then .error (.seed ⟨crawler.pageUrl page, failure.reason⟩)
  else .ok (.unlessIndefinite crawler (withoutPage result failure page (crawler.pageUrl page)))

/-- How the walk goes on after a page that was read. -/
def turnWith (result : CrawlResult) (outcomes : List LinkOutcome) : Turn :=
  if crawler.paging.mode = .indefinite && (outcomes.filterMap LinkOutcome.record?).isEmpty then
    .done (withPage result outcomes)
  else .next (withPage result outcomes)

/-- What there is after a visit. -/
def Turn.result : Turn → CrawlResult
  | .next result | .done result => result

theorem result_unlessIndefinite (result : CrawlResult) :
    (Turn.unlessIndefinite crawler result).result = result := by
  rw [Turn.unlessIndefinite]
  split <;> rfl

theorem result_turnWith (result : CrawlResult)
    (outcomes : List LinkOutcome) :
    (crawler.turnWith result outcomes).result = withPage result outcomes := by
  rw [turnWith]
  split <;> rfl

section

variable {crawler around} {page : Nat} {course after : Course τ}

theorem leads_visit_ended (ended : crawler.paging.isDue page = false) (result : CrawlResult) :
    Leads (crawler.visit around page result).run course (.ok (.done result)) course := by
  rw [visit, ended]
  exact Leads.run_pure _ _

variable (due : crawler.paging.isDue page = true)

include due

/-- A visit that sees a reason to stop ends the walk after one look. -/
theorem leads_visit_stopped {reason : StopReason}
    (reasoned : crawler.reasonOn around course = some reason) (result : CrawlResult) :
    Leads (crawler.visit around page result).run course (.ok (.done result))
      (crawler.looked around course) := by
  have look := crawler.leads_stopReason around course
  rw [reasoned] at look
  rw [visit, if_pos due]
  exact Leads.run_bind look (Leads.run_bind (Crawling.leads_note _ _ _ _) (Leads.run_pure _ _))

variable (running : crawler.reasonOn around course = none)

omit due in
private theorem leads_pageAsked {answer : Fetched}
    (answered : around.answerOn course (crawler.pageUrl page) = answer) :
    Leads (Crawling.ask around (crawler.pageUrl page)).run (crawler.looked around course)
      (.ok answer) (crawler.pageAsked around page course) := by
  rw [← answered]
  exact Crawling.leads_ask around (crawler.pageUrl page) (crawler.looked around course)

include due running

private theorem leads_visit_crashed {crash : Crash}
    (answered : around.answerOn course (crawler.pageUrl page) = .crashed crash)
    (result : CrawlResult) :
    Leads (crawler.visit around page result).run course (.error (.crash crash))
      (crawler.pageAsked around page course) := by
  have look := crawler.leads_stopReason around course
  rw [running] at look
  rw [visit, if_pos due]
  exact Leads.run_bind look (Leads.run_bind (leads_pageAsked answered) (Leads.run_throw _ _))

/-- A visit to a page that cannot be had leaves its failure behind. -/
theorem leads_visit_unreachable {failure : FetchFailure}
    (answered : around.answerOn course (crawler.pageUrl page) = .failed failure)
    (result : CrawlResult) :
    Leads (crawler.visit around page result).run course (crawler.turnWithout result failure page)
      (crawler.pageAsked around page course) := by
  have look := crawler.leads_stopReason around course
  rw [running] at look
  rw [visit, if_pos due]
  refine Leads.run_bind look (Leads.run_bind (leads_pageAsked answered) ?_)
  rw [turnWithout]
  by_cases first : page = 0
  · simp only [if_pos first]
    exact Leads.run_bind_error (Leads.run_throw _ _)
  · simp only [if_neg first]
    exact Leads.run_bind (Crawling.leads_note _ _ _ _) (Leads.run_pure _ _)

/-- A visit to a page that is there ends as the crawl of its links does. -/
theorem leads_visit_read {html : String}
    (answered : around.answerOn course (crawler.pageUrl page) = .document html)
    {outcome : Except Abort (List LinkOutcome)}
    (crawls : Leads (crawler.crawlPage around html page).run
      (crawler.pageAsked around page course) outcome after) (result : CrawlResult) :
    Leads (crawler.visit around page result).run course
      (return crawler.turnWith result (← outcome)) after := by
  have look := crawler.leads_stopReason around course
  rw [running] at look
  rw [visit, if_pos due]
  refine Leads.run_bind look (Leads.run_bind (leads_pageAsked answered) ?_)
  refine Leads.run_bind_same crawls fun outcomes => ?_
  rw [turnWith]
  dsimp only
  by_cases last : (crawler.paging.mode = .indefinite &&
      (outcomes.filterMap LinkOutcome.record?).isEmpty) = true
  · simp only [if_pos last]
    exact Leads.run_bind (Crawling.leads_note _ _ _ _) (Leads.run_pure _ _)
  · simp only [if_neg last]
    exact Leads.run_pure _ _

end

/-! ## Visits and walks as relations -/

/-- What a visit to a page comes to on a course. -/
inductive Visits (page : Nat) (result : CrawlResult) (course : Course τ) :
    Except Abort Turn → Course τ → Prop
  | ended (ended : crawler.paging.isDue page = false) :
    Visits page result course (.ok (.done result)) course
  | stopped {reason : StopReason} (due : crawler.paging.isDue page = true)
    (reasoned : crawler.reasonOn around course = some reason) :
    Visits page result course (.ok (.done result)) (crawler.looked around course)
  | crashed {crash : Crash} (due : crawler.paging.isDue page = true)
    (running : crawler.reasonOn around course = none)
    (answered : around.answerOn course (crawler.pageUrl page) = .crashed crash) :
    Visits page result course (.error (.crash crash)) (crawler.pageAsked around page course)
  | unreachable {failure : FetchFailure} (due : crawler.paging.isDue page = true)
    (running : crawler.reasonOn around course = none)
    (answered : around.answerOn course (crawler.pageUrl page) = .failed failure) :
    Visits page result course (crawler.turnWithout result failure page)
      (crawler.pageAsked around page course)
  | unreadable {html : String} {abort : Abort} (due : crawler.paging.isDue page = true)
    (running : crawler.reasonOn around course = none)
    (answered : around.answerOn course (crawler.pageUrl page) = .document html)
    (broken : crawler.keptLinks html = .error abort) :
    Visits page result course (.error abort) (crawler.pageAsked around page course)
  | read {html : String} {links : List String} {outcome : Except Abort (List LinkOutcome)}
    {after : Course τ} {handled : List Handled} (due : crawler.paging.isDue page = true)
    (running : crawler.reasonOn around course = none)
    (answered : around.answerOn course (crawler.pageUrl page) = .document html)
    (kept : crawler.keptLinks html = .ok links)
    (account : PageAccount crawler around page links (crawler.pageAsked around page course)
      outcome after handled) :
    Visits page result course (return crawler.turnWith result (← outcome)) after

/-- What a walk over at most so many pages comes to. -/
inductive Walks : (limit page : Nat) → CrawlResult → Course τ →
    Except Abort (Option CrawlResult) → Course τ → Prop
  | exhausted (page : Nat) (result : CrawlResult) (course : Course τ) :
    Walks 0 page result course (.ok none) course
  | broken {limit page : Nat} {result : CrawlResult} {course after : Course τ} {abort : Abort}
    (visits : crawler.Visits around page result course (.error abort) after) :
    Walks (limit + 1) page result course (.error abort) after
  | done {limit page : Nat} {result last : CrawlResult} {course after : Course τ}
    (visits : crawler.Visits around page result course (.ok (.done last)) after) :
    Walks (limit + 1) page result course (.ok (some last)) after
  | next {limit page : Nat} {result more : CrawlResult} {course middle after : Course τ}
    {outcome : Except Abort (Option CrawlResult)}
    (visits : crawler.Visits around page result course (.ok (.next more)) middle)
    (walks : Walks limit (page + 1) more middle outcome after) :
    Walks (limit + 1) page result course outcome after

/-- Every visit comes to an outcome that is one of those told by its cases. -/
theorem visit_visits (page : Nat) (result : CrawlResult) (course : Course τ) :
    ∃ outcome after, Leads (crawler.visit around page result).run course outcome after ∧
      crawler.Visits around page result course outcome after := by
  cases due : crawler.paging.isDue page with
  | false => exact ⟨_, _, leads_visit_ended due result, .ended due⟩
  | true =>
    cases running : crawler.reasonOn around course with
    | some reason => exact ⟨_, _, leads_visit_stopped due running result, .stopped due running⟩
    | none =>
      cases answered : around.answerOn course (crawler.pageUrl page) with
      | crashed crash =>
        exact ⟨_, _, leads_visit_crashed due running answered result,
          .crashed due running answered⟩
      | failed failure =>
        exact ⟨_, _, leads_visit_unreachable due running answered result,
          .unreachable due running answered⟩
      | document html =>
        cases kept : crawler.keptLinks html with
        | error abort =>
          have broken := crawler.leads_crawlPage_error around page kept
            (crawler.pageAsked around page course)
          exact ⟨_, _, leads_visit_read due running answered broken result,
            .unreadable due running answered kept⟩
        | ok links =>
          obtain ⟨outcome, after, handled, crawls, account⟩ :=
            crawler.crawlPage_account around page kept (crawler.pageAsked around page course)
          exact ⟨_, _, leads_visit_read due running answered crawls result,
            .read due running answered kept account⟩

/-- Every walk comes to an outcome that is one of those told by its visits. -/
theorem walk_walks (limit page : Nat) (result : CrawlResult) (course : Course τ) :
    ∃ outcome after, Leads (crawler.walk around limit page result).run course outcome after ∧
      crawler.Walks around limit page result course outcome after := by
  induction limit generalizing page result course with
  | zero => exact ⟨_, _, Leads.run_pure _ _, .exhausted page result course⟩
  | succ limit ih =>
    obtain ⟨outcome, middle, leads, visits⟩ := crawler.visit_visits around page result course
    obtain abort | more | last := outcome
    · exact ⟨_, _, Leads.run_bind_error leads, .broken visits⟩
    · obtain ⟨outcome, after, goesOn, walks⟩ := ih (page + 1) more middle
      exact ⟨_, _, Leads.run_bind leads goesOn, .next visits walks⟩
    · exact ⟨_, _, Leads.run_bind leads (Leads.run_pure _ _), .done visits⟩

section

variable {crawler around} {page limit : Nat} {result : CrawlResult} {course after : Course τ}

private theorem pageAsked_grows (crawler : Crawler τ) (around : Surroundings τ) (page : Nat)
    (course : Course τ) : course.fetched <+: (crawler.pageAsked around page course).fetched :=
  List.prefix_append _ _

theorem Visits.grows {outcome : Except Abort Turn}
    (visits : crawler.Visits around page result course outcome after) :
    course.fetched <+: after.fetched := by
  cases visits with
  | ended => exact List.prefix_refl _
  | stopped => exact List.prefix_refl _
  | crashed => exact crawler.pageAsked_grows around page course
  | unreachable => exact crawler.pageAsked_grows around page course
  | unreadable => exact crawler.pageAsked_grows around page course
  | read _ _ _ _ account => exact (crawler.pageAsked_grows around page course).trans account.grows

/-- A walk forgets nothing that was fetched. -/
theorem Walks.grows {outcome : Except Abort (Option CrawlResult)}
    (walks : crawler.Walks around limit page result course outcome after) :
    course.fetched <+: after.fetched := by
  induction walks with
  | exhausted => exact List.prefix_refl _
  | broken visits => exact visits.grows
  | done visits => exact visits.grows
  | next visits _ ih => exact visits.grows.trans ih

theorem leads_walk_grows {outcome : Except Abort (Option CrawlResult)}
    (leads : Leads (crawler.walk around limit page result).run course outcome after) :
    course.fetched <+: after.fetched := by
  obtain ⟨_, after', leads', walks⟩ := crawler.walk_walks around limit page result course
  rw [(leads.unique leads').2]
  exact walks.grows

end

/-! ## Runs -/

/-- The course once a run has begun. -/
def started (around : Surroundings τ) (course : Course τ) : Course τ :=
  { course with
    cancelled := false
    readings := course.readings + 1
    startedAt := around.reading course.readings }

/-- The course once a run has ended. -/
def concluded (outcome : Except Abort (Option CrawlResult)) (course : Course τ) : Course τ :=
  match outcome with
  | .ok (some result) => { course with last := some result }
  | .ok none | .error _ => course

theorem concluded_fetched (outcome : Except Abort (Option CrawlResult)) (course : Course τ) :
    (concluded outcome course).fetched = course.fetched := by
  obtain _ | _ | _ := outcome <;> rfl

theorem leads_start (around : Surroundings τ) (course : Course τ) :
    Leads (start around).run course (.ok ()) (started around course) :=
  fun journal => ⟨journal, rfl⟩

/-- A run is a walk from the seed on that is concluded. -/
theorem leads_run {limit : Nat} {course after : Course τ}
    {outcome : Except Abort (Option CrawlResult)}
    (walk : Leads (crawler.walk around limit 0 {}).run (started around course) outcome after) :
    Leads (crawler.run around limit).run course outcome (concluded outcome after) := by
  refine Leads.run_bind (leads_start around course) ?_
  obtain abort | _ | result := outcome
  · exact Leads.run_bind_error walk
  · exact Leads.run_bind walk (Leads.run_pure _ _)
  · have keep : Leads (modify fun activity => { activity with last := some result } :
        Crawling τ Unit).run after (.ok ()) { after with last := some result } :=
      fun journal => ⟨journal, rfl⟩
    exact Leads.run_bind walk (Leads.run_bind keep (Leads.run_pure _ _))

/-- What a run comes to on an activity. -/
theorem run_walks (limit : Nat) (activity : Activity τ) :
    ∃ outcome after,
      crawler.Walks around limit 0 {} (started around activity.toCourse) outcome after ∧
      (Crawling.runOn (crawler.run around limit) activity).1 = outcome ∧
      (Crawling.runOn (crawler.run around limit) activity).2.toCourse =
        concluded outcome after := by
  obtain ⟨outcome, after, walk, walks⟩ :=
    crawler.walk_walks around limit 0 {} (started around activity.toCourse)
  have run := crawler.leads_run around walk
  exact ⟨outcome, after, walks, run.run_fst, run.run_snd⟩

end Crawler

end PageHarvest
