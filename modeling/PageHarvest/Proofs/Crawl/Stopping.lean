import PageHarvest.Proofs.Crawl.Pace
import PageHarvest.Proofs.Crawl.Steady

/-! # Stopping cuts a crawl short

A crawl that takes links in turn and is stopped, by its deadline or by being cancelled, does what
the same crawl does when nothing stops it, up to the first look that sees a reason to stop. From
there on nothing is fetched: the rest of the page is abandoned, and no further page is visited.
-/

namespace PageHarvest

variable {τ : Type}

namespace Crawler

/-- What visits from a page on have gathered after at most so many pages, at their end or not. -/
def gather (crawler : Crawler τ) (around : Surroundings τ) :
    (pages page : Nat) → CrawlResult → Crawling τ CrawlResult
  | 0, _, result => return result
  | pages + 1, page, result => do
    match ← crawler.visit around page result with
    | .done result => return result
    | .next result => crawler.gather around pages (page + 1) result

/-- What a run has gathered after at most so many pages. -/
def gathered (crawler : Crawler τ) (around : Surroundings τ) (pages : Nat) :
    Crawling τ CrawlResult := do
  start around
  crawler.gather around pages 0 {}

/-- One result begins another. -/
structure Begins (result whole : CrawlResult) : Prop where
  records : result.records <+: whole.records
  failures : result.failures <+: whole.failures

/-- What a stopped crawl gives beside what the crawl gathers that is not stopped: the same, or all
but the links of the last page that it asked for from one link on. -/
inductive CutShort (crawler : Crawler τ) (around : Surroundings τ) (fetched : List String) :
    CrawlResult → CrawlResult → Prop
  | whole (result : CrawlResult) : CutShort crawler around fetched result result
  | short {page : Nat} {html : String} {earlier done rest : List String} {before : CrawlResult}
    {settled missing abandoned : List LinkOutcome}
    (asked : fetched = earlier ++ crawler.pageUrl page :: done)
    (answered : around.answer (crawler.pageUrl page) (earlier.count (crawler.pageUrl page)) =
      .document html)
    (kept : crawler.keptLinks html = .ok (done ++ rest))
    (left : List.Forall₂
      (fun link outcome => ∃ reason, outcome = Crawler.abandoned link page reason)
      rest abandoned) :
    CutShort crawler around fetched (withPage before (settled ++ abandoned))
      (withPage before (settled ++ missing))

/-- A visit in a crawl that may be stopped beside the visit in one that is not. -/
inductive CutVisit (crawler : Crawler τ) (around : Surroundings τ) (page : Nat)
    (before : CrawlResult) (course : Course τ) :
    Except Abort Turn → Course τ → Except Abort Turn → Course τ → Prop
  | halted {outcome : Except Abort Turn} {after free : Course τ}
    (still : after.fetched = course.fetched) (goesOn : course.fetched <+: free.fetched) :
    CutVisit crawler around page before course (.ok (.done before)) after outcome free
  | alike {urls : List String} {outcome : Except Abort Turn} {after free : Course τ}
    (paces : crawler.Paces around course urls after) (same : free.fetched = after.fetched)
    (running : free.cancelled = false) :
    CutVisit crawler around page before course outcome after outcome free
  | short {html : String} {done rest : List String} {settled missing abandoned : List LinkOutcome}
    {middle after free : Course τ}
    (answered : around.answerOn course (crawler.pageUrl page) = .document html)
    (kept : crawler.keptLinks html = .ok (done ++ rest))
    (paces : crawler.Paces around course (crawler.pageUrl page :: done) middle)
    (still : after.fetched = middle.fetched) (stopping : crawler.Stopping around after)
    (goesOn : middle.fetched <+: free.fetched)
    (left : List.Forall₂
      (fun link outcome => ∃ reason, outcome = Crawler.abandoned link page reason)
      rest abandoned) :
    CutVisit crawler around page before course
      (.ok (crawler.turnWith before (settled ++ abandoned))) after
      (.ok (crawler.turnWith before (settled ++ missing))) free

section

variable {crawler : Crawler τ} {around : Surroundings τ} {page : Nat} {before : CrawlResult}
  {course after : Course τ}

private theorem exists_gather (crawler : Crawler τ) (around : Surroundings τ) (pages page : Nat)
    (before : CrawlResult) (course : Course τ) :
    ∃ outcome after, Leads (crawler.gather around pages page before).run course outcome after := by
  induction pages generalizing page before course with
  | zero => exact ⟨_, _, Leads.run_pure _ _⟩
  | succ pages ih =>
    obtain ⟨outcome, middle, visit, -⟩ := crawler.visit_visits around page before course
    obtain abort | more | done := outcome
    · exact ⟨_, _, Leads.run_bind_error visit⟩
    · obtain ⟨outcome, after, gather⟩ := ih (page + 1) more middle
      exact ⟨_, _, Leads.run_bind visit gather⟩
    · exact ⟨_, _, Leads.run_bind visit (Leads.run_pure _ _)⟩

private theorem leads_gather_one {turn : Turn}
    (visit : Leads (crawler.visit around page before).run course (.ok turn) after) :
    Leads (crawler.gather around 1 page before).run course (.ok turn.result) after := by
  refine Leads.run_bind visit ?_
  cases turn <;> exact Leads.run_pure _ _

/-- A walk goes on from where its first visit ends. -/
theorem leads_walk_of_visit (limit : Nat) {outcome : Except Abort Turn}
    (visit : Leads (crawler.visit around page before).run course outcome after) :
    ∃ ended last, Leads (crawler.walk around (limit + 1) page before).run course ended last ∧
      after.fetched <+: last.fetched := by
  obtain abort | more | whole := outcome
  · exact ⟨_, _, Leads.run_bind_error visit, List.prefix_refl _⟩
  · obtain ⟨ended, last, walk, _⟩ := crawler.walk_walks around limit (page + 1) more after
    exact ⟨ended, last, Leads.run_bind visit walk, leads_walk_grows walk⟩
  · exact ⟨_, _, Leads.run_bind visit (Leads.run_pure _ _), List.prefix_refl _⟩

/-- A walk that sees a reason to stop after a visit fetches nothing more. -/
theorem leads_walk_of_stopping (limit : Nat) {turn : Turn}
    (visit : Leads (crawler.visit around page before).run course (.ok turn) after)
    (stopping : crawler.Stopping around after) :
    ∃ ended last, Leads (crawler.walk around (limit + 1) page before).run course ended last ∧
      last.fetched = after.fetched ∧
        ∀ result, ended = .ok (some result) → turn.result = result := by
  cases turn with
  | done whole =>
    refine ⟨_, _, Leads.run_bind visit (Leads.run_pure _ _), rfl, ?_⟩
    rintro result ⟨⟩
    rfl
  | next more =>
    cases limit with
    | zero => exact ⟨_, _, Leads.run_bind visit (Leads.run_pure _ _), rfl, nofun⟩
    | succ limit =>
      obtain ⟨reason, reasoned⟩ := stopping
      have halt : ∃ last, Leads (crawler.visit around (page + 1) more).run after
          (.ok (.done more)) last ∧ last.fetched = after.fetched := by
        cases due : crawler.paging.isDue (page + 1) with
        | false => exact ⟨_, leads_visit_ended due more, rfl⟩
        | true => exact ⟨_, leads_visit_stopped due reasoned more, rfl⟩
      obtain ⟨last, visit', still⟩ := halt
      refine ⟨_, last, Leads.run_bind visit (Leads.run_bind visit' (Leads.run_pure _ _)), still, ?_⟩
      rintro result ⟨⟩
      rfl

end

variable [LE τ] {crawler : Crawler τ} {around : Surroundings τ}
  (sequential : crawler.parallel = false) (advances : around.Advances)
  (readable : Readable crawler around)

include sequential advances readable

/-- A visit of the stopped crawl is one of the free crawl, cut short at some link. -/
private theorem visit_cut (page : Nat) (before : CrawlResult) {course free : Course τ}
    (same : free.fetched = course.fetched) (running : free.cancelled = false) :
    ∃ outcome after outcome' after',
      Leads (crawler.visit around page before).run course outcome after ∧
      Leads (crawler.withoutDeadline.visit around.uncancelled page before).run free outcome'
        after' ∧
      CutVisit crawler around page before course outcome after outcome' after' := by
  cases due : crawler.paging.isDue page with
  | false =>
    have due' : crawler.withoutDeadline.paging.isDue page = false := due
    exact ⟨_, _, _, _, leads_visit_ended due before, leads_visit_ended due' before,
      .alike (.nil course) same running⟩
  | true =>
    have due' : crawler.withoutDeadline.paging.isDue page = true := due
    cases unseen : crawler.reasonOn around course with
    | some reason =>
      obtain ⟨outcome', after', leads', visits'⟩ :=
        crawler.withoutDeadline.visit_visits around.uncancelled page before free
      exact ⟨_, _, _, _, leads_visit_stopped due unseen before, leads',
        .halted rfl (same ▸ visits'.grows)⟩
    | none =>
      have calm := crawler.undisturbed around
      have unseen' := reasonOn_eq_none calm running
      have same' : (crawler.withoutDeadline.pageAsked around.uncancelled page free).fetched =
          (crawler.pageAsked around page course).fetched := by
        rw [pageAsked, pageAsked, Surroundings.asked, Surroundings.asked, looked_fetched,
          looked_fetched, same]
        rfl
      have running' : (crawler.withoutDeadline.pageAsked around.uncancelled page free).cancelled =
          false := asked_cancelled calm _ (looked_cancelled calm running)
      have asked : crawler.Paces around course [crawler.pageUrl page]
          (crawler.pageAsked around page course) := .cons unseen (.nil _)
      have agree : around.uncancelled.answerOn free (crawler.pageUrl page) =
          around.answerOn course (crawler.pageUrl page) := by
        rw [Surroundings.answerOn, Surroundings.answerOn, same]
        rfl
      cases answered : around.answerOn course (crawler.pageUrl page) with
      | crashed crash => exact absurd answered (readable.uncrashed _ _ _)
      | failed failure =>
        have leads' := leads_visit_unreachable due' unseen' (agree.trans answered) before
        exact ⟨_, _, _, _, leads_visit_unreachable due unseen answered before, leads',
          .alike asked same' running'⟩
      | document html =>
        cases kept : crawler.keptLinks html with
        | error abort =>
          have kept' : crawler.withoutDeadline.keptLinks html = .error abort := kept
          have broken := crawler.leads_crawlPage_error around page kept
            (crawler.pageAsked around page course)
          have broken' := crawler.withoutDeadline.leads_crawlPage_error around.uncancelled page
            kept' (crawler.withoutDeadline.pageAsked around.uncancelled page free)
          exact ⟨_, _, _, _, leads_visit_read due unseen answered broken before,
            leads_visit_read due' unseen' (agree.trans answered) broken' before,
            .alike asked same' running'⟩
        | ok links =>
          obtain ⟨outcomes, after, outcomes', after', crawls, crawls', running'', cut⟩ :=
            crawlPage_cut sequential advances readable page kept same' running'
          refine ⟨_, _, _, _, leads_visit_read due unseen answered crawls before,
            leads_visit_read due' unseen' (agree.trans answered) crawls' before, ?_⟩
          cases cut with
          | whole paces same => exact .alike (asked.append paces) same running''
          | short split paces still stopping goesOn left =>
            exact .short answered (split ▸ kept) (asked.append paces) still stopping goesOn left

/-- A walk in a crawl that may be stopped beside the walk in one that is not. -/
theorem walk_cut (limit page : Nat) (before : CrawlResult) {course free : Course τ}
    (same : free.fetched = course.fetched) (running : free.cancelled = false) :
    ∃ outcome after outcome' after' urls middle,
      Leads (crawler.walk around limit page before).run course outcome after ∧
      Leads (crawler.withoutDeadline.walk around.uncancelled limit page before).run free outcome'
        after' ∧
      crawler.Paces around course urls middle ∧ after.fetched = middle.fetched ∧
      middle.fetched <+: after'.fetched ∧
      ∀ result, outcome = .ok (some result) → ∃ pages ≤ limit, ∃ whole last,
        Leads (crawler.withoutDeadline.gather around.uncancelled pages page before).run free
          (.ok whole) last ∧
        CutShort crawler around middle.fetched result whole := by
  induction limit generalizing page before course free with
  | zero =>
    exact ⟨_, _, _, _, [], course, Leads.run_pure _ _, Leads.run_pure _ _, .nil course, rfl,
      same ▸ List.prefix_refl _, nofun⟩
  | succ limit ih =>
    obtain ⟨outcome, after, outcome', after', visit, visit', cut⟩ :=
      visit_cut sequential advances readable page before same running
    obtain ⟨ended, last, walk', goesOn'⟩ := leads_walk_of_visit limit visit'
    cases cut with
    | halted still goesOn =>
      refine ⟨_, _, _, _, [], course, Leads.run_bind visit (Leads.run_pure _ _), walk',
        .nil course, still, goesOn.trans goesOn', ?_⟩
      rintro result ⟨⟩
      exact ⟨0, Nat.zero_le _, _, _, Leads.run_pure _ _, .whole before⟩
    | @alike urls _ _ _ paces same running =>
      obtain abort | more | whole := outcome
      · exact ⟨_, _, _, _, urls, after, Leads.run_bind_error visit, walk', paces, rfl,
          same ▸ goesOn', nofun⟩
      · obtain ⟨outcome, done, outcome', done', urls', middle, walk, walk', paces', still, goesOn,
          told⟩ := ih (page + 1) more same running
        refine ⟨_, _, _, _, urls ++ urls', middle, Leads.run_bind visit walk,
          Leads.run_bind visit' walk', paces.append paces', still, goesOn, ?_⟩
        intro result given
        obtain ⟨pages, few, whole, last, gather, cut⟩ := told result given
        exact ⟨pages + 1, Nat.succ_le_succ few, whole, last, Leads.run_bind visit' gather, cut⟩
      · refine ⟨_, _, _, _, urls, after, Leads.run_bind visit (Leads.run_pure _ _), walk', paces,
          rfl, same ▸ goesOn', ?_⟩
        rintro result ⟨⟩
        exact ⟨1, Nat.succ_le_succ (Nat.zero_le _), _, _, leads_gather_one visit', .whole _⟩
    | @short html done rest settled missing abandoned middle _ _ answered kept paces still stopping
        goesOn left =>
      obtain ⟨outcome, ended', walk, still', given⟩ := leads_walk_of_stopping limit visit stopping
      refine ⟨_, _, _, _, _, middle, walk, walk', paces, still'.trans still,
        goesOn.trans goesOn', ?_⟩
      intro result ended
      obtain rfl := given result ended
      refine ⟨1, Nat.succ_le_succ (Nat.zero_le _), _, _, leads_gather_one visit', ?_⟩
      rw [result_turnWith, result_turnWith]
      refine .short ?_ answered kept left
      rw [paces.fetched]

omit sequential advances readable [LE τ]

/-! ## What is gathered -/

private theorem begins_of_walk {limit : Nat} {last : CrawlResult}
    (walk : Leads (crawler.walk around limit page before).run course (.ok (some last)) after) :
    Begins before last := by
  obtain ⟨outcome, after', leads, walks⟩ := crawler.walk_walks around limit page before course
  obtain ⟨visits, chronicle⟩ := walks.chronicle (walk.unique leads).1.symm
  exact ⟨⟨_, chronicle.records.symm⟩, ⟨_, chronicle.failures.symm⟩⟩

/-- What is gathered at any time begins what a walk that ends gives. -/
theorem begins_of_gather {pages limit : Nat} {whole last : CrawlResult} {after' : Course τ}
    (gather : Leads (crawler.gather around pages page before).run course (.ok whole) after)
    (walk : Leads (crawler.walk around limit page before).run course (.ok (some last)) after') :
    Begins whole last := by
  induction pages generalizing limit page before course with
  | zero =>
    obtain ⟨same, -⟩ := gather.unique (Leads.run_pure before course)
    cases same
    exact begins_of_walk walk
  | succ pages ih =>
    obtain ⟨outcome, middle, visit, -⟩ := crawler.visit_visits around page before course
    cases limit with
    | zero =>
      obtain ⟨same, -⟩ := walk.unique (Leads.run_pure none course)
      cases same
    | succ limit =>
      obtain abort | more | done := outcome
      · obtain ⟨same, -⟩ := gather.unique (Leads.run_bind_error visit)
        cases same
      · obtain ⟨outcome, last', gather'⟩ :=
          exists_gather crawler around pages (page + 1) more middle
        obtain ⟨outcome', done, walk', -⟩ := crawler.walk_walks around limit (page + 1) more middle
        obtain ⟨rfl, rfl⟩ := (Leads.run_bind visit gather').unique gather
        obtain ⟨rfl, rfl⟩ := (Leads.run_bind visit walk').unique walk
        exact ih gather' walk'
      · obtain ⟨same, -⟩ := gather.unique (Leads.run_bind visit (Leads.run_pure done middle))
        obtain ⟨same', -⟩ := walk.unique (Leads.run_bind visit (Leads.run_pure (some done) middle))
        cases same
        cases same'
        exact ⟨List.prefix_refl _, List.prefix_refl _⟩

/-- What is abandoned gives no record, and a failure with the reason for each link. -/
private theorem failures_of_abandoned {links : List String} {abandoned : List LinkOutcome}
    (left : List.Forall₂
      (fun link outcome => ∃ reason, outcome = Crawler.abandoned link page reason)
      links abandoned) :
    abandoned.filterMap LinkOutcome.record? = [] ∧
      List.Forall₂ (fun link failure => ∃ reason : StopReason,
        failure = ⟨link, reason.message, page⟩)
      links (abandoned.filterMap LinkOutcome.failure?) := by
  induction left with
  | nil => exact ⟨rfl, .nil⟩
  | cons first _ ih =>
    obtain ⟨reason, rfl⟩ := first
    rw [List.filterMap_cons_none (by rfl), List.filterMap_cons_some (by rfl)]
    exact ⟨ih.1, .cons ⟨reason, rfl⟩ ih.2⟩

/-- What a stopped crawl gives begins what is gathered, up to the links that it abandoned. -/
theorem CutShort.split {fetched : List String} {result whole : CrawlResult}
    (cut : CutShort crawler around fetched result whole) :
    ∃ settled abandoned, result.records <+: whole.records ∧ settled <+: whole.failures ∧
      result.failures = settled ++ abandoned ∧
      (result = whole ∧ abandoned = [] ∨
        ∃ (page : Nat) (html : String) (earlier done rest : List String),
          fetched = earlier ++ crawler.pageUrl page :: done ∧
          around.answer (crawler.pageUrl page) (earlier.count (crawler.pageUrl page)) =
            .document html ∧
          (∀ activity, (Crawling.runOn (crawler.discoverLinks html) activity).1 =
            .ok (done ++ rest)) ∧
          List.Forall₂ (fun link failure => ∃ reason : StopReason,
            failure = ⟨link, reason.message, page⟩) rest abandoned) := by
  cases cut with
  | whole =>
    exact ⟨result.failures, [], List.prefix_refl _, List.prefix_refl _, (List.append_nil _).symm,
      .inl ⟨rfl, rfl⟩⟩
  | @short page html earlier done rest before settled missing abandoned asked answered kept left =>
    obtain ⟨records, failures⟩ := failures_of_abandoned left
    refine ⟨before.failures ++ settled.filterMap LinkOutcome.failure?,
      abandoned.filterMap LinkOutcome.failure?, ?_, ?_, ?_,
      .inr ⟨page, html, earlier, done, rest, asked, answered, ?_, failures⟩⟩
    · simp only [withPage, List.filterMap_append, records, List.append_nil, ← List.append_assoc]
      exact List.prefix_append _ _
    · simp only [withPage, List.filterMap_append, ← List.append_assoc]
      exact List.prefix_append _ _
    · simp only [withPage, List.filterMap_append, List.append_assoc]
    · intro activity
      rw [← kept]
      exact (crawler.leads_discoverLinks html activity.toCourse).run_fst

/-- A seed that cannot be had ends a walk. -/
theorem leads_walk_seed (limit : Nat) (due : crawler.paging.isDue 0 = true)
    (unseen : crawler.reasonOn around course = none) {failure : FetchFailure}
    (answered : around.answerOn course (crawler.pageUrl 0) = .failed failure) :
    Leads (crawler.walk around (limit + 1) 0 {}).run course
      (.error (.seed ⟨crawler.pageUrl 0, failure.reason⟩)) (crawler.pageAsked around 0 course) :=
  Leads.run_bind_error (leads_visit_unreachable due unseen answered {})

/-- A walk that fetches anything has its first page due. -/
theorem due_of_walk {limit : Nat} {outcome : Except Abort (Option CrawlResult)}
    (walk : Leads (crawler.walk around limit page before).run course outcome after)
    (fetches : after.fetched ≠ course.fetched) :
    ∃ fewer, limit = fewer + 1 ∧ crawler.paging.isDue page = true := by
  cases limit with
  | zero =>
    obtain ⟨-, rfl⟩ := walk.unique (Leads.run_pure none course)
    exact absurd rfl fetches
  | succ fewer =>
    cases due : crawler.paging.isDue page with
    | true => exact ⟨fewer, rfl, rfl⟩
    | false =>
      have ended : Leads (crawler.visit around page before).run course (.ok (.done before))
          course := leads_visit_ended due before
      obtain ⟨-, rfl⟩ := walk.unique (Leads.run_bind ended (Leads.run_pure (some before) course))
      exact absurd rfl fetches

/-- A seed that cannot be had ends a walk and, beside it, the walk that nothing stops. -/
theorem seed_ends_both {limit : Nat} {outcome outcome' : Except Abort (Option CrawlResult)}
    {free after' : Course τ} {failure : FetchFailure}
    (walk : Leads (crawler.walk around limit 0 {}).run course outcome after)
    (walk' : Leads (crawler.withoutDeadline.walk around.uncancelled limit 0 {}).run free outcome'
      after')
    (same : free.fetched = course.fetched) (running : free.cancelled = false)
    (unseen : crawler.reasonOn around course = none)
    (answered : around.answerOn course (crawler.pageUrl 0) = .failed failure)
    (fetches : after.fetched ≠ course.fetched) :
    outcome = .error (.seed ⟨crawler.pageUrl 0, failure.reason⟩) ∧
      outcome' = .error (.seed ⟨crawler.pageUrl 0, failure.reason⟩) := by
  obtain ⟨fewer, rfl, due⟩ := due_of_walk walk fetches
  have due' : crawler.withoutDeadline.paging.isDue 0 = true := due
  have unseen' := reasonOn_eq_none (crawler.undisturbed around) running
  have answered' : around.uncancelled.answerOn free (crawler.withoutDeadline.pageUrl 0) =
      .failed failure := by
    rw [Surroundings.answerOn, same]
    exact answered
  have seed := leads_walk_seed fewer due unseen answered
  have seed' := leads_walk_seed fewer due' unseen' answered'
  exact ⟨(walk.unique seed).1, (walk'.unique seed').1⟩

private theorem leads_gathered {pages : Nat} {whole : CrawlResult}
    (gather : Leads (crawler.gather around pages 0 {}).run (started around course) (.ok whole)
      after) :
    Leads (crawler.gathered around pages).run course (.ok whole) after :=
  Leads.run_bind (leads_start around course) gather

/-- A crawl that takes links in turn and is stopped does what the crawl does that nothing stops,
up to the first look that sees a reason to stop, and then fetches nothing more. Its records begin
the other's records; its failures begin the other's failures, and then follow only the remaining
links of the last page asked for, each with the reason. A seed that cannot be had ends both. -/
theorem stopping_cuts_short [LE τ] (crawler : Crawler τ) (around : Surroundings τ)
    (sequential : crawler.parallel = false) (advances : around.Advances)
    (readable : Readable crawler around) (limit : Nat) (activity : Activity τ) :
    let stopped := Crawling.runOn (crawler.run around limit) activity
    let free := Crawling.runOn (crawler.withoutDeadline.run around.uncancelled limit) activity
    (∃ urls, stopped.2.fetched = activity.fetched ++ urls ∧
      ∀ done, done <+: urls →
        crawler.Stopping around (crawler.paced around (started around activity.toCourse) done) →
        done = urls) ∧
    stopped.2.fetched <+: free.2.fetched ∧
    (∀ result, stopped.1 = .ok (some result) → ∃ pages ≤ limit, ∃ whole settled abandoned,
      (Crawling.runOn (crawler.withoutDeadline.gathered around.uncancelled pages) activity).1 =
        .ok whole ∧
      (∀ last, free.1 = .ok (some last) → Begins whole last) ∧
      result.records <+: whole.records ∧ settled <+: whole.failures ∧
      result.failures = settled ++ abandoned ∧
      (result = whole ∧ abandoned = [] ∨
        ∃ (page : Nat) (html : String) (earlier done rest : List String),
          stopped.2.fetched = earlier ++ crawler.pageUrl page :: done ∧
          around.answer (crawler.pageUrl page) (earlier.count (crawler.pageUrl page)) =
            .document html ∧
          (∀ activity, (Crawling.runOn (crawler.discoverLinks html) activity).1 =
            .ok (done ++ rest)) ∧
          List.Forall₂ (fun link failure => ∃ reason : StopReason,
            failure = ⟨link, reason.message, page⟩) rest abandoned)) ∧
    ∀ failure, around.answer (crawler.pageUrl 0) (activity.fetched.count (crawler.pageUrl 0)) =
        .failed failure → stopped.2.fetched ≠ activity.fetched →
      stopped.1 = .error (.seed ⟨crawler.pageUrl 0, failure.reason⟩) ∧
        free.1 = .error (.seed ⟨crawler.pageUrl 0, failure.reason⟩) := by
  intro stopped free
  have same : (started around.uncancelled activity.toCourse).fetched =
      (started around activity.toCourse).fetched := rfl
  obtain ⟨outcome, after, outcome', after', urls, middle, walk, walk', paces, still, goesOn,
      told⟩ :=
    walk_cut sequential advances readable limit 0 {} same rfl
  have run := crawler.leads_run around walk
  have run' := crawler.withoutDeadline.leads_run around.uncancelled walk'
  have given : stopped.1 = outcome := run.run_fst
  have given' : free.1 = outcome' := run'.run_fst
  have fetched : stopped.2.fetched = middle.fetched := by
    rw [← still, ← concluded_fetched outcome after]
    exact congrArg Course.fetched run.run_snd
  have fetched' : free.2.fetched = after'.fetched := by
    rw [← concluded_fetched outcome' after']
    exact congrArg Course.fetched run'.run_snd
  refine ⟨⟨urls, fetched.trans paces.fetched, ?_⟩, ?_, ?_, ?_⟩
  · rintro done ⟨_ | ⟨url, rest⟩, split⟩ ⟨reason, reasoned⟩
    · rwa [List.append_nil] at split
    · rw [paces.unseen split.symm] at reasoned
      cases reasoned
  · rw [fetched, fetched']
    exact goesOn
  · intro result ended
    obtain ⟨pages, few, whole, last, gather, cut⟩ := told result (given.symm.trans ended)
    rw [← fetched] at cut
    obtain ⟨settled, abandoned, rest⟩ := cut.split
    refine ⟨pages, few, whole, settled, abandoned, (leads_gathered gather).run_fst, ?_, rest⟩
    intro final ended'
    obtain rfl := given'.symm.trans ended'
    exact begins_of_gather gather walk'
  · intro failure answered attempted
    have fetches : middle.fetched ≠ (started around activity.toCourse).fetched := by
      rw [← fetched]
      exact attempted
    rw [given, given']
    exact seed_ends_both walk walk' same rfl (paces.unseen_first fetches) answered
      (still ▸ fetches)

end Crawler

namespace Sample

/-- A crawler of the small site that takes links in turn and has a deadline. -/
def hurriedCrawler : Crawler Nat := { crawler with parallel := false, deadline := some 2 }

/-- The small site, whose crawl is cancelled while it fetches the first link. -/
def cancelledAtFetch : Surroundings Nat := { around with cancels := fun url _ => url == "u" }

private theorem cancelledAtFetch_advances : cancelledAtFetch.Advances := by
  refine ⟨id, ?_⟩
  intro start now later limit le exceeded
  simp only [cancelledAtFetch, around, decide_eq_true_eq] at exceeded ⊢
  omega

private theorem hurriedCrawler_readable : Readable hurriedCrawler cancelledAtFetch := by
  refine ⟨?_, fun _ _ _ _ => ⟨_, rfl⟩⟩
  intro url earlier crash
  simp only [cancelledAtFetch, around]
  exact site_ne_crashed url crash

end Sample

namespace Crawler

/-- A crawl of the small site that is cancelled while it fetches the first link, with a deadline
besides, does what the crawl does that nothing stops, up to that link. -/
theorem sample_cut_short :
    let crawler := Sample.hurriedCrawler
    let around := Sample.cancelledAtFetch
    let start : Activity Nat := { startedAt := 0 }
    let stopped := Crawling.runOn (crawler.run around 2) start
    let free := Crawling.runOn (crawler.withoutDeadline.run around.uncancelled 2) start
    crawler.parallel = false ∧ around.Advances ∧ Readable crawler around ∧
    (∃ urls, stopped.2.fetched = start.fetched ++ urls ∧
      ∀ done, done <+: urls →
        crawler.Stopping around (crawler.paced around (started around start.toCourse) done) →
        done = urls) ∧
    stopped.2.fetched <+: free.2.fetched ∧
    (∀ result, stopped.1 = .ok (some result) → ∃ pages ≤ 2, ∃ whole settled abandoned,
      (Crawling.runOn (crawler.withoutDeadline.gathered around.uncancelled pages) start).1 =
        .ok whole ∧
      (∀ last, free.1 = .ok (some last) → Begins whole last) ∧
      result.records <+: whole.records ∧ settled <+: whole.failures ∧
      result.failures = settled ++ abandoned ∧
      (result = whole ∧ abandoned = [] ∨
        ∃ (page : Nat) (html : String) (earlier done rest : List String),
          stopped.2.fetched = earlier ++ crawler.pageUrl page :: done ∧
          around.answer (crawler.pageUrl page) (earlier.count (crawler.pageUrl page)) =
            .document html ∧
          (∀ activity, (Crawling.runOn (crawler.discoverLinks html) activity).1 =
            .ok (done ++ rest)) ∧
          List.Forall₂ (fun link failure => ∃ reason : StopReason,
            failure = ⟨link, reason.message, page⟩) rest abandoned)) ∧
    ∀ failure, around.answer (crawler.pageUrl 0) (start.fetched.count (crawler.pageUrl 0)) =
        .failed failure → stopped.2.fetched ≠ start.fetched →
      stopped.1 = .error (.seed ⟨crawler.pageUrl 0, failure.reason⟩) ∧
        free.1 = .error (.seed ⟨crawler.pageUrl 0, failure.reason⟩) := by
  exact ⟨rfl, Sample.cancelledAtFetch_advances, Sample.hurriedCrawler_readable,
    stopping_cuts_short Sample.hurriedCrawler Sample.cancelledAtFetch rfl
      Sample.cancelledAtFetch_advances Sample.hurriedCrawler_readable 2 { startedAt := 0 }⟩

end Crawler

end PageHarvest
