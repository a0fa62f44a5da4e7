import PageHarvest.Proofs.Crawl.Visit
import PageHarvest.Proofs.Extract.Harvest
import PageHarvest.Proofs.Traverse

/-! # Chronicles

The chronicle of a walk lists the pages that it asked for, each with how every link of the page was
dealt with. What the walk gives is what became of those links, one outcome for each, and one
failure for each page that could not be had; nothing was fetched that the chronicle does not tell.
-/

namespace PageHarvest

variable {τ : Type}

/-- What becomes of a link of a page by the way it was dealt with: the record of the document that
was fetched for it, or a failure under its address and page. -/
inductive Became (crawler : Crawler τ) (page : Nat) : Handled → LinkOutcome → Prop
  | found {link html : String} {record : Record}
    (harvested : (harvest crawler.spec (some link) html).outcome.1 = .ok record)
    (labelled : record.url = some link) :
    Became crawler page ⟨link, .answered (.document html)⟩ (.found record)
  | unreachable {link : String} {failure : FetchFailure} :
    Became crawler page ⟨link, .answered (.failed failure)⟩ (.failed ⟨link, failure.reason, page⟩)
  | abandoned {link : String} {reason : StopReason} :
    Became crawler page ⟨link, .abandoned reason⟩ (.failed ⟨link, reason.message, page⟩)

/-- A page that was asked for, how its links were dealt with, and what was given for them. -/
@[ext]
structure PageVisit where
  page : Nat
  url : String
  answer : Fetched
  handled : List Handled := []
  outcomes : List LinkOutcome := []

namespace PageVisit

/-- The fetches that a visit took. -/
def fetches (visit : PageVisit) : List (String × Fetched) :=
  (visit.url, visit.answer) :: visit.handled.flatMap Handled.fetches

/-- Whether the page could be had. -/
def isRead (visit : PageVisit) : Bool :=
  match visit.answer with
  | .document _ => true
  | .failed _ | .crashed _ => false

/-- What a visit adds to the result. -/
def given (visit : PageVisit) : List LinkOutcome :=
  match visit.answer with
  | .failed failure => [.failed ⟨visit.url, failure.reason, visit.page⟩]
  | .document _ | .crashed _ => visit.outcomes

/-- A visit that gives one outcome for each link of its page, or the failure of the page. -/
inductive Complete (crawler : Crawler τ) : PageVisit → Prop
  | read {page : Nat} {html : String} {handled : List Handled} {given inTurn : List LinkOutcome}
    (discovered : ∀ activity, (Crawling.runOn (crawler.discoverLinks html) activity).1 =
      .ok (handled.map Handled.link))
    (became : List.Forall₂ (Became crawler page) handled inTurn) (perm : given.Perm inTurn)
    (same : crawler.InOrder → given = inTurn) :
    Complete crawler ⟨page, crawler.pageUrl page, .document html, handled, given⟩
  | unreachable {page : Nat} {failure : FetchFailure} :
    Complete crawler ⟨page, crawler.pageUrl page, .failed failure, [], []⟩

end PageVisit

/-- The result that visits give together. -/
def CrawlResult.ofVisits (visits : List PageVisit) : CrawlResult where
  records := (visits.flatMap PageVisit.given).filterMap LinkOutcome.record?
  failures := (visits.flatMap PageVisit.given).filterMap LinkOutcome.failure?
  pages := (visits.filter PageVisit.isRead).length

/-- Every decision on a link is one of those that the chronicle tells apart. -/
theorem became_of_decision {crawler : Crawler τ} {page : Nat} {handled : Handled}
    {outcome : LinkOutcome} (decided : crawler.decision page handled = .ok outcome) :
    Became crawler page handled outcome := by
  obtain ⟨link, reason | html | failure | crash⟩ := handled
  · cases decided
    exact .abandoned
  · rw [Crawler.decision] at decided
    rcases read : Crawling.readingOutcome (harvest crawler.spec (some link) html) with _ | record
    · simp only [read] at decided
      cases decided
    · simp only [read] at decided
      cases decided
      have harvested := Crawling.readingOutcome_eq_ok.mp read
      exact .found harvested (harvest_url harvested)
  · cases decided
    exact .unreachable
  · cases decided

/-- What visits from a page on tell about the way from one result and course to another. -/
structure Chronicle (crawler : Crawler τ) (around : Surroundings τ) (page : Nat)
    (before : CrawlResult) (course : Course τ) (result : CrawlResult) (after : Course τ)
    (visits : List PageVisit) : Prop where
  pages : visits.map PageVisit.page = List.range' page visits.length
  complete : ∀ visit ∈ visits, visit.Complete crawler
  fetches :
    Fetches around (crawler.parallel = false) course after (visits.flatMap PageVisit.fetches)
  records : result.records =
    before.records ++ (visits.flatMap PageVisit.given).filterMap LinkOutcome.record?
  failures : result.failures =
    before.failures ++ (visits.flatMap PageVisit.given).filterMap LinkOutcome.failure?
  counted : result.pages = before.pages + (visits.filter PageVisit.isRead).length

namespace Chronicle

variable {crawler : Crawler τ} {around : Surroundings τ} {course after : Course τ}
  {result : CrawlResult} {visits : List PageVisit}

/-- A run's result is made up of its visits and nothing else. -/
theorem eq_ofVisits (chronicle : Chronicle crawler around 0 {} course result after visits) :
    result = .ofVisits visits := by
  obtain ⟨records, failures, pages⟩ := result
  have counted : pages = (visits.filter PageVisit.isRead).length :=
    chronicle.counted.trans (Int.zero_add _)
  have records' : records = _ := chronicle.records
  have failures' : failures = _ := chronicle.failures
  rw [records', failures', counted]
  rfl

/-- A run visits the pages in order, from the seed on and without a gap. -/
theorem pages_range (chronicle : Chronicle crawler around 0 {} course result after visits) :
    visits.map PageVisit.page = List.range visits.length := by
  rw [chronicle.pages, List.range_eq_range']

end Chronicle

namespace Crawler

variable {crawler : Crawler τ} {around : Surroundings τ} {page limit : Nat}
  {before result : CrawlResult} {course middle after : Course τ}

theorem chronicle_nil (same : after.fetched = course.fetched) :
    Chronicle crawler around page before course before after [] where
  pages := rfl
  complete := nofun
  fetches := .none same
  records := (List.append_nil _).symm
  failures := (List.append_nil _).symm
  counted := (Int.add_zero _).symm

/-- A visit in front of a chronicle makes a chronicle. -/
theorem chronicle_cons {visit : PageVisit} {visits : List PageVisit} {between : CrawlResult}
    (first : Chronicle crawler around page before course between middle [visit])
    (rest : Chronicle crawler around (page + 1) between middle result after visits) :
    Chronicle crawler around page before course result after (visit :: visits) where
  pages := by
    have here : visit.page = page := by simpa using first.pages
    rw [List.map_cons, rest.pages, here]
    rfl
  complete := by
    rintro one (_ | ⟨_, member⟩)
    · exact first.complete visit List.mem_cons_self
    · exact rest.complete one member
  fetches := by
    have fetches := first.fetches.trans rest.fetches
    rwa [List.flatMap_singleton, ← List.flatMap_cons] at fetches
  records := by
    rw [rest.records, first.records, List.flatMap_singleton, List.flatMap_cons,
      List.filterMap_append, List.append_assoc]
  failures := by
    rw [rest.failures, first.failures, List.flatMap_singleton, List.flatMap_cons,
      List.filterMap_append, List.append_assoc]
  counted := by
    rw [rest.counted, first.counted, List.filter_cons, List.filter_cons]
    cases visit.isRead with
    | false => simp
    | true => simp; omega

private theorem pageAsked_fetches (crawler : Crawler τ) (around : Surroundings τ) (page : Nat)
    (course : Course τ) {inOrder : Prop} :
    Fetches around inOrder course (crawler.pageAsked around page course)
      [(crawler.pageUrl page, around.answerOn course (crawler.pageUrl page))] :=
  .asked (crawler.pageUrl page) (crawler.looked around course)

theorem chronicle_unreachable (failure : FetchFailure)
    (answered : around.answerOn course (crawler.pageUrl page) = .failed failure) :
    Chronicle crawler around page before course
      (withoutPage before failure page (crawler.pageUrl page))
      (crawler.pageAsked around page course)
      [⟨page, crawler.pageUrl page, .failed failure, [], []⟩] where
  pages := rfl
  complete := List.forall_mem_singleton.mpr .unreachable
  fetches := by
    rw [← answered]
    exact pageAsked_fetches crawler around page course
  records := (List.append_nil _).symm
  failures := rfl
  counted := (Int.add_zero _).symm

/-- A page that is read is a chronicle of one visit. -/
theorem chronicle_read {html : String} {links : List String} {given : List LinkOutcome}
    {handled : List Handled}
    (answered : around.answerOn course (crawler.pageUrl page) = .document html)
    (kept : crawler.keptLinks html = .ok links)
    (account : PageAccount crawler around page links (crawler.pageAsked around page course)
      (.ok given) after handled) :
    Chronicle crawler around page before course (withPage before given) after
      [⟨page, crawler.pageUrl page, .document html, handled, given⟩] where
  pages := rfl
  complete := by
    have discovered : ∀ activity, (Crawling.runOn (crawler.discoverLinks html) activity).1 =
        .ok (handled.map Handled.link) := by
      intro activity
      rw [account.links, ← kept]
      exact (crawler.leads_discoverLinks html activity.toCourse).run_fst
    refine List.forall_mem_singleton.mpr ?_
    rcases arranged : handled.mapM (crawler.decision page) with abort | inTurn
    · have impossible := account.arranged
      rw [arranged] at impossible
      cases impossible
    · have became := (mapM_eq_ok_iff.mp arranged).imp fun _ _ => became_of_decision
      have given := account.arranged
      rw [arranged] at given
      cases given with
      | ok perm same => exact .read discovered became perm same
  fetches := by
    have asked : Fetches around (crawler.parallel = false) course
        (crawler.pageAsked around page course) [(crawler.pageUrl page, .document html)] := by
      rw [← answered]
      exact pageAsked_fetches crawler around page course
    rw [List.flatMap_singleton]
    exact asked.trans (account.fetches given rfl)
  records := by
    simp [withPage, PageVisit.given]
  failures := by
    simp [withPage, PageVisit.given]
  counted := rfl

/-- A visit that ends well fetched nothing or is told by one entry. -/
theorem Visits.chronicle {outcome : Except Abort Turn} {turn : Turn}
    (visits : crawler.Visits around page before course outcome after) (ended : outcome = .ok turn) :
    (turn = .done before ∧ after.fetched = course.fetched) ∨
      ∃ visit, Chronicle crawler around page before course turn.result after [visit] := by
  cases visits with
  | ended =>
    cases ended
    exact .inl ⟨rfl, rfl⟩
  | stopped =>
    cases ended
    exact .inl ⟨rfl, rfl⟩
  | crashed => cases ended
  | unreadable => cases ended
  | unreachable due running answered =>
    rw [turnWithout] at ended
    split at ended
    · cases ended
    · cases ended
      rw [result_unlessIndefinite]
      exact .inr ⟨_, chronicle_unreachable _ answered⟩
  | @read html links outcome _ handled due running answered kept account =>
    rcases outcome with abort | given
    · cases ended
    · cases ended
      rw [result_turnWith]
      exact .inr ⟨_, chronicle_read answered kept account⟩

/-- The chronicle of a walk. -/
theorem Walks.chronicle {outcome : Except Abort (Option CrawlResult)}
    (walks : crawler.Walks around limit page before course outcome after)
    (ended : outcome = .ok (some result)) :
    ∃ visits, Chronicle crawler around page before course result after visits := by
  induction walks with
  | exhausted => cases ended
  | broken => cases ended
  | done visits =>
    cases ended
    rcases visits.chronicle rfl with ⟨same, still⟩ | ⟨visit, chronicle⟩
    · cases same
      exact ⟨[], chronicle_nil still⟩
    · exact ⟨[visit], chronicle⟩
  | next visits walks ih =>
    obtain ⟨told, rest⟩ := ih ended
    rcases visits.chronicle rfl with ⟨same, still⟩ | ⟨visit, first⟩
    · cases same
    · exact ⟨visit :: told, chronicle_cons first rest⟩

end Crawler

end PageHarvest
