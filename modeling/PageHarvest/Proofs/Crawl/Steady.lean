import PageHarvest.Proofs.Crawl.Chronicle

/-! # Crawls of a steady site

When a site always answers alike and nothing stops the crawl, what a run comes to is told by the
site alone: the pages are visited one after another, and each link is fetched once. Every crawl of
such a site, with however many workers, goes through these visits, at most with the outcomes of a
page in another order.
-/

namespace PageHarvest

variable {τ : Type}

/-- A link that is fetched from a steady site. -/
def Handled.ofSite (site : String → Fetched) (link : String) : Handled :=
  ⟨link, .answered (site link)⟩

/-- On a steady site, a link is handled as the site alone says. -/
theorem Handled.Fits.eq_ofSite {around : Surroundings τ} {site : String → Fetched}
    (steady : ∀ url earlier, around.answer url earlier = site url) {calm : Prop} (still : calm)
    {handled : Handled} (fits : handled.Fits around calm) :
    handled = .ofSite site handled.link := by
  obtain ⟨link, reason | answer⟩ := handled
  · exact absurd still fits
  · obtain ⟨earlier, answered⟩ := fits
    rw [answered, steady]
    rfl

/-- On a steady site, the links of a page are handled as the site alone says. -/
theorem PageAccount.handled_eq {crawler : Crawler τ} {around : Surroundings τ}
    {site : String → Fetched} (steady : ∀ url earlier, around.answer url earlier = site url)
    {page : Nat} {links : List String} {before after : Course τ}
    {outcome : Except Abort (List LinkOutcome)} {handled : List Handled}
    (account : PageAccount crawler around page links before outcome after handled)
    (calm : Undisturbed crawler around) (running : before.cancelled = false) :
    handled = links.map (.ofSite site) := by
  rw [← account.links, List.map_map]
  refine (List.map_id handled).symm.trans (List.map_congr_left fun one member => ?_)
  exact (account.fits one member).eq_ofSite steady ⟨calm, running⟩

/-- The same visit, perhaps with its outcomes in another order. -/
structure PageVisit.Rearranged (inOrder : Prop) (given inTurn : PageVisit) : Prop where
  page : given.page = inTurn.page
  url : given.url = inTurn.url
  answer : given.answer = inTurn.answer
  handled : given.handled = inTurn.handled
  perm : given.outcomes.Perm inTurn.outcomes
  same : inOrder → given.outcomes = inTurn.outcomes

theorem PageVisit.Rearranged.mono {inOrder known : Prop} {given inTurn : PageVisit}
    (rearranged : given.Rearranged inOrder inTurn) (implies : known → inOrder) :
    given.Rearranged known inTurn :=
  { rearranged with same := fun given => rearranged.same (implies given) }

private theorem PageVisit.Rearranged.refl (inOrder : Prop) (visit : PageVisit) :
    visit.Rearranged inOrder visit where
  page := rfl
  url := rfl
  answer := rfl
  handled := rfl
  perm := .refl _
  same := fun _ => rfl

namespace Crawler

variable (crawler : Crawler τ) (site : String → Fetched)

/-- The visit to a page of a steady site; none if the page is not due. -/
def siteVisit (page : Nat) : Except Abort (Option PageVisit) :=
  if crawler.paging.isDue page then
    match site (crawler.pageUrl page) with
    | .crashed crash => .error (.crash crash)
    | .failed failure =>
      if page = 0 then .error (.seed ⟨crawler.pageUrl page, failure.reason⟩)
      else .ok (some ⟨page, crawler.pageUrl page, .failed failure, [], []⟩)
    | .document html => do
      let links ← crawler.keptLinks html
      let outcomes ← (links.map (.ofSite site)).mapM (crawler.decision page)
      return some
        ⟨page, crawler.pageUrl page, .document html, links.map (.ofSite site), outcomes⟩
  else .ok none

/-- Whether the walk ends after a visit. -/
def endsAfter (visit : PageVisit) : Bool :=
  crawler.paging.mode = .indefinite && (visit.given.filterMap LinkOutcome.record?).isEmpty

/-- The visits to at most so many pages of a steady site, and whether the walk ends with them. -/
def siteVisits : (limit page : Nat) → Except Abort (List PageVisit × Bool)
  | 0, _ => return ([], false)
  | limit + 1, page => do
    match ← crawler.siteVisit site page with
    | none => return ([], true)
    | some visit =>
      if crawler.endsAfter visit then return ([visit], true)
      let (rest, ends) ← siteVisits limit (page + 1)
      return (visit :: rest, ends)

/-- How the walk goes on after a visit. -/
def turnAfter (visit : PageVisit) (result : CrawlResult) : Turn :=
  if crawler.endsAfter visit then .done result else .next result

section

variable {crawler site} {around : Surroundings τ} {page : Nat} {before : CrawlResult}
  {course after : Course τ}

theorem siteVisit_document {html : String} {links : List String}
    (due : crawler.paging.isDue page = true)
    (gives : site (crawler.pageUrl page) = .document html)
    (kept : crawler.keptLinks html = .ok links) :
    crawler.siteVisit site page = (fun outcomes => some
        ⟨page, crawler.pageUrl page, .document html, links.map (.ofSite site), outcomes⟩) <$>
      (links.map (.ofSite site)).mapM (crawler.decision page) := by
  simp only [siteVisit, due, if_true, gives, kept]
  rfl

private theorem turnWith_eq_turnAfter {html : String} {handled : List Handled}
    {given inTurn : List LinkOutcome} (perm : given.Perm inTurn) (result : CrawlResult) :
    crawler.turnWith result given =
      crawler.turnAfter ⟨page, crawler.pageUrl page, .document html, handled, inTurn⟩
        (withPage result given) := by
  have records := perm.filterMap LinkOutcome.record?
  have same : (given.filterMap LinkOutcome.record?).isEmpty =
      (inTurn.filterMap LinkOutcome.record?).isEmpty := by
    rw [Bool.eq_iff_iff, List.isEmpty_iff, List.isEmpty_iff]
    exact ⟨fun none => List.nil_perm.mp (none ▸ records), fun none => (none ▸ records).eq_nil⟩
  rw [turnWith, turnAfter, endsAfter, same]
  rfl

/-- What a visit to a page comes to is told by the site. -/
theorem Visits.steady (steady : ∀ url earlier, around.answer url earlier = site url)
    (calm : Undisturbed crawler around) (running : course.cancelled = false)
    {outcome : Except Abort Turn}
    (visits : crawler.Visits around page before course outcome after) :
    (∃ abort, crawler.siteVisit site page = .error abort ∧ outcome = .error abort) ∨
    (crawler.siteVisit site page = .ok none ∧ outcome = .ok (.done before) ∧
      after.fetched = course.fetched) ∨
    ∃ visit given result, crawler.siteVisit site page = .ok (some visit) ∧
      given.Rearranged crawler.InOrder visit ∧ outcome = .ok (crawler.turnAfter visit result) ∧
      Chronicle crawler around page before course result after [given] ∧
      after.cancelled = false := by
  cases visits with
  | ended notDue =>
    refine .inr (.inl ⟨?_, rfl, rfl⟩)
    rw [siteVisit, notDue]
    rfl
  | stopped due reasoned =>
    rw [reasonOn_eq_none calm running] at reasoned
    cases reasoned
  | crashed due _ answered =>
    rw [Surroundings.answerOn, steady] at answered
    exact .inl ⟨_, by simp only [siteVisit, due, if_true, answered], rfl⟩
  | unreachable due _ answered =>
    have gives := answered
    rw [Surroundings.answerOn, steady] at gives
    rw [turnWithout]
    by_cases first : page = 0
    · rw [if_pos first]
      exact .inl ⟨_, by simp only [siteVisit, due, if_true, gives, if_pos first], rfl⟩
    · rw [if_neg first]
      refine .inr (.inr ⟨_, _, _, by simp only [siteVisit, due, if_true, gives, if_neg first],
        .refl _ _, ?_, chronicle_unreachable _ answered, ?_⟩)
      · rw [Turn.unlessIndefinite, turnAfter, endsAfter]
        simp [PageVisit.given, LinkOutcome.record?]
      · exact asked_cancelled calm _ (looked_cancelled calm running)
  | unreadable due _ answered broken =>
    rw [Surroundings.answerOn, steady] at answered
    refine .inl ⟨_, ?_, rfl⟩
    simp only [siteVisit, due, if_true, answered, broken]
    rfl
  | @read html links outcome after handled due _ answered kept account =>
    have gives := answered
    rw [Surroundings.answerOn, steady] at gives
    have asked := asked_cancelled calm (crawler.pageUrl page) (looked_cancelled calm running)
    obtain rfl := account.handled_eq steady calm asked
    have arranged := account.arranged
    rcases decided : (links.map (Handled.ofSite site)).mapM (crawler.decision page) with
      abort | inTurn
    · rw [decided] at arranged
      cases arranged
      refine .inl ⟨abort, ?_, rfl⟩
      rw [siteVisit_document due gives kept, decided]
      rfl
    · rw [decided] at arranged
      cases arranged with
      | @ok given _ perm same =>
        have rearranged : PageVisit.Rearranged crawler.InOrder
            ⟨page, crawler.pageUrl page, .document html, links.map (.ofSite site), given⟩
            ⟨page, crawler.pageUrl page, .document html, links.map (.ofSite site), inTurn⟩ :=
          ⟨rfl, rfl, rfl, rfl, perm, same⟩
        refine .inr (.inr ⟨_, _, _, ?_, rearranged, ?_, chronicle_read answered kept account,
          account.running _ rfl calm asked⟩)
        · rw [siteVisit_document due gives kept, decided]
          rfl
        · exact congrArg Except.ok (turnWith_eq_turnAfter perm before)

end

/-- What a walk comes to when a site tells its visits: it breaks down as they do, it is not at its
end if they are not, and otherwise its chronicle is theirs, each visit perhaps rearranged. -/
inductive Realizes (around : Surroundings τ) (page : Nat) (before : CrawlResult)
    (course after : Course τ) :
    Except Abort (List PageVisit × Bool) → Except Abort (Option CrawlResult) → Prop
  | broken (abort : Abort) : Realizes around page before course after (.error abort) (.error abort)
  | ongoing (visits : List PageVisit) :
    Realizes around page before course after (.ok (visits, false)) (.ok none)
  | ended {visits given : List PageVisit} {result : CrawlResult}
    (rearranged : List.Forall₂ (PageVisit.Rearranged crawler.InOrder) given visits)
    (chronicle : Chronicle crawler around page before course result after given) :
    Realizes around page before course after (.ok (visits, true)) (.ok (some result))

variable {crawler site} {around : Surroundings τ}

private theorem siteVisits_last {limit page : Nat} {visit : PageVisit}
    (tells : crawler.siteVisit site page = .ok (some visit))
    (ends : crawler.endsAfter visit = true) :
    crawler.siteVisits site (limit + 1) page = .ok ([visit], true) := by
  rw [siteVisits, tells]
  exact if_pos ends

private theorem siteVisits_more {limit page : Nat} {visit : PageVisit}
    (tells : crawler.siteVisit site page = .ok (some visit))
    (goesOn : crawler.endsAfter visit = false) :
    crawler.siteVisits site (limit + 1) page =
      (fun told => (visit :: told.1, told.2)) <$> crawler.siteVisits site limit (page + 1) := by
  rw [siteVisits, tells]
  exact if_neg (Bool.eq_false_iff.mp goesOn)

/-- A walk realizes the visits that the site tells. -/
theorem Walks.steady (steady : ∀ url earlier, around.answer url earlier = site url)
    (calm : Undisturbed crawler around) {limit page : Nat} {before : CrawlResult}
    {course after : Course τ} {outcome : Except Abort (Option CrawlResult)}
    (running : course.cancelled = false)
    (walks : crawler.Walks around limit page before course outcome after) :
    crawler.Realizes around page before course after (crawler.siteVisits site limit page)
      outcome := by
  induction walks with
  | exhausted => exact .ongoing []
  | broken visits =>
    rcases visits.steady steady calm running with
      ⟨abort, tells, same⟩ | ⟨_, same, _⟩ | ⟨_, _, _, _, _, same, _⟩
    · cases same
      rw [siteVisits, tells]
      exact .broken _
    · cases same
    · cases same
  | done visits =>
    rcases visits.steady steady calm running with
      ⟨_, _, same⟩ | ⟨tells, same, still⟩ | ⟨visit, given, result, tells, rearranged, same, told, _⟩
    · cases same
    · cases same
      rw [siteVisits, tells]
      exact .ended .nil (chronicle_nil still)
    · cases ends : crawler.endsAfter visit with
      | false => simp [turnAfter, ends] at same
      | true =>
        rw [turnAfter, if_pos ends] at same
        cases same
        rw [siteVisits_last tells ends]
        exact .ended (.cons rearranged .nil) told
  | next visits walks ih =>
    rcases visits.steady steady calm running with
      ⟨_, _, same⟩ | ⟨_, same, _⟩ | ⟨visit, given, result, tells, rearranged, same, told, still⟩
    · cases same
    · cases same
    · cases ends : crawler.endsAfter visit with
      | true => simp [turnAfter, ends] at same
      | false =>
        rw [turnAfter, if_neg (Bool.eq_false_iff.mp ends)] at same
        cases same
        rw [siteVisits_more tells ends]
        have rest := ih still
        revert rest
        generalize crawler.siteVisits site _ _ = others
        intro rest
        cases rest with
        | broken abort => exact .broken abort
        | ongoing visits => exact .ongoing _
        | ended rearranged' chronicle =>
          exact .ended (.cons rearranged rearranged') (chronicle_cons told chronicle)

/-- What a run over a steady site comes to. -/
theorem run_steady (steady : ∀ url earlier, around.answer url earlier = site url)
    (calm : Undisturbed crawler around) (limit : Nat) (activity : Activity τ) :
    ∃ after, crawler.Realizes around 0 {} (started around activity.toCourse) after
        (crawler.siteVisits site limit 0)
        (Crawling.runOn (crawler.run around limit) activity).1 ∧
      (Crawling.runOn (crawler.run around limit) activity).2.fetched = after.fetched := by
  obtain ⟨outcome, after, walks, given, reached⟩ := crawler.run_walks around limit activity
  have fetched := congrArg Course.fetched reached
  refine ⟨after, ?_, fetched.trans (concluded_fetched outcome after)⟩
  rw [given]
  exact walks.steady steady calm rfl

/-- A run over a steady site ends if the site tells all its visits. -/
theorem run_ends_of_siteVisits (steady : ∀ url earlier, around.answer url earlier = site url)
    (calm : Undisturbed crawler around) {limit : Nat} {visits : List PageVisit}
    (tells : crawler.siteVisits site limit 0 = .ok (visits, true)) (activity : Activity τ) :
    ∃ result, (Crawling.runOn (crawler.run around limit) activity).1 = .ok (some result) := by
  obtain ⟨after, realizes, -⟩ := run_steady steady calm limit activity
  rw [tells] at realizes
  generalize (Crawling.runOn (crawler.run around limit) activity).1 = outcome at realizes ⊢
  cases realizes
  exact ⟨_, rfl⟩

end Crawler

/-! ## A small site -/

namespace Sample

/-- A page with two links. -/
def listing : String := "<ul><a href=u></a><a href=v></a></ul>"

/-- A listing, one document that it links to, and nothing else. -/
def site (url : String) : Fetched :=
  if url = "s" then .document listing
  else if url = "u" then .document "<p>x</p>"
  else .failed ⟨url, "gone", none⟩

theorem site_ne_crashed (url : String) (crash : Crash) : site url ≠ .crashed crash := by
  rw [site]
  split
  · simp
  · split <;> simp

/-- A crawler of the listing with two workers. -/
def crawler : Crawler Nat where
  baseUrl := "s"
  linkPath := .anchored ⟨"ul", 0⟩ [.find ⟨⟨"a", .all ""⟩, .attribute "href"⟩]
  spec := {}
  workers := 2

/-- The site, a clock that ticks with each reading, and workers of which the second is first. -/
def around : Surroundings Nat where
  answer url _ := site url
  reading readings := readings
  exceeds start now limit := limit < now - start
  steps _ := [.take, .take, .check 1, .fetch 1, .finish 1]

theorem undisturbed : Undisturbed crawler around where
  deadline := rfl
  cancels _ _ := rfl
  interrupts _ := rfl
  steps _ := by simp [around]

/-- The site tells one visit, to the listing. -/
theorem siteVisits_crawler : ∃ visits, crawler.siteVisits site 2 0 = .ok (visits, true) := by
  have ends : (crawler.siteVisits site 2 0).toOption.map Prod.snd = some true := by
    decide +kernel
  rcases told : crawler.siteVisits site 2 0 with abort | ⟨visits, ended⟩
  · rw [told] at ends
    cases ends
  · rw [told] at ends
    obtain rfl : ended = true := Option.some.inj ends
    exact ⟨visits, rfl⟩

end Sample

end PageHarvest
