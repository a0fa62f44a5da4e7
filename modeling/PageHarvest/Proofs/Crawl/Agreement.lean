import PageHarvest.Proofs.Crawl.Steady

/-! # Workers agree with taking links in turn

On a steady site that nothing keeps from being crawled, it makes no difference whether the links of
a page are shared out to workers or taken in turn, in whatever order the workers get on: kept in
order, the results are the same; otherwise the same pages are visited, and only the outcomes
within a page may change places. A breakdown is always that of the first link that has one.
-/

namespace PageHarvest

variable {τ : Type}

namespace PageVisit

variable {inOrder : Prop} {given visits : List PageVisit}

private theorem fetches_of_rearranged
    (rearranged : List.Forall₂ (Rearranged inOrder) given visits) :
    given.flatMap fetches = visits.flatMap fetches := by
  induction rearranged with
  | nil => rfl
  | cons first _ ih =>
    rw [List.flatMap_cons, List.flatMap_cons, ih, fetches, fetches, first.url, first.answer,
      first.handled]

/-- Where the order is known, what is rearranged is the same. -/
theorem eq_of_rearranged (known : inOrder)
    (rearranged : List.Forall₂ (Rearranged inOrder) given visits) : given = visits := by
  induction rearranged with
  | nil => rfl
  | cons first _ ih =>
    rw [ih, PageVisit.ext first.page first.url first.answer first.handled (first.same known)]

end PageVisit

namespace Crawler

variable (crawler : Crawler τ)

/-- The same crawler with workers. -/
def onPool : Crawler τ := { crawler with parallel := true }

/-- The same crawler that takes links in turn. -/
def inTurn : Crawler τ := { crawler with parallel := false }

private theorem siteVisits_onPool (site : String → Fetched) (limit page : Nat) :
    crawler.onPool.siteVisits site limit page = crawler.inTurn.siteVisits site limit page := by
  induction limit generalizing page with
  | zero => rfl
  | succ limit ih =>
    have same : crawler.onPool.siteVisit site page = crawler.inTurn.siteVisit site page := rfl
    rw [siteVisits, siteVisits, same]
    simp only [ih]
    rfl

section

variable {crawler} {around : Surroundings τ} {site : String → Fetched}

private theorem leads_processLink_steady
    (steady : ∀ url earlier, around.answer url earlier = site url)
    (calm : Undisturbed crawler around) {activity : Activity τ}
    (running : activity.cancelled = false) (page : Nat) (link : String) :
    (Crawling.runOn (crawler.processLink around page link) activity).1 =
      crawler.decision page (.ofSite site link) := by
  have handled := (crawler.handle_fits around link activity.toCourse).eq_ofSite steady
    ⟨calm, running⟩
  have process := (crawler.leads_processLink around page link activity.toCourse).run_fst
  rw [handled] at process
  exact process

/-- A page breaks down with the first link that does, whoever processes the links. -/
theorem crawlPage_first_abort (steady : ∀ url earlier, around.answer url earlier = site url)
    (calm : Undisturbed crawler around) {activity : Activity τ}
    (running : activity.cancelled = false) {page : Nat} {html : String} {done rest : List String}
    {link : String} {abort : Abort} (kept : crawler.keptLinks html = .ok (done ++ link :: rest))
    (sound : ∀ other ∈ done, ∃ outcome, crawler.decision page (.ofSite site other) = .ok outcome)
    (breaks : crawler.decision page (.ofSite site link) = .error abort) :
    (Crawling.runOn (crawler.crawlPage around html page) activity).1 = .error abort := by
  obtain ⟨outcome, after, handled, crawls, account⟩ :=
    crawler.crawlPage_account around page kept activity.toCourse
  have arranged := account.arranged
  rw [account.handled_eq steady calm running, List.mapM_map] at arranged
  have decided : (done ++ link :: rest).mapM (crawler.decision page ∘ .ofSite site) =
      .error abort := mapM_eq_error sound breaks
  rw [decided] at arranged
  cases arranged
  exact crawls.run_fst

end

/-- Two walks that realize the same visits from the same course, one with workers and one in
turn. -/
private theorem agree_of_realizes {crawler : Crawler τ} {around : Surroundings τ}
    {course after after' : Course τ} {told : Except Abort (List PageVisit × Bool)}
    {outcome outcome' : Except Abort (Option CrawlResult)}
    (pool : crawler.onPool.Realizes around 0 {} course after told outcome)
    (turn : crawler.inTurn.Realizes around 0 {} course after' told outcome') :
    (∃ abort, outcome = .error abort ∧ outcome' = .error abort) ∨
      (outcome = .ok none ∧ outcome' = .ok none) ∨
      ∃ given visits result result',
        outcome = .ok (some result) ∧ outcome' = .ok (some result') ∧
        List.Forall₂ (PageVisit.Rearranged (crawler.preserveOrder = true)) given visits ∧
        Chronicle crawler.onPool around 0 {} course result after given ∧
        Chronicle crawler.inTurn around 0 {} course result' after' visits := by
  cases pool with
  | broken abort =>
    cases turn
    exact .inl ⟨abort, rfl, rfl⟩
  | ongoing =>
    cases turn
    exact .inr (.inl ⟨rfl, rfl⟩)
  | ended rearranged chronicle =>
    cases turn with
    | ended rearranged' chronicle' =>
      have inOrder : crawler.inTurn.InOrder := nofun
      obtain rfl := PageVisit.eq_of_rearranged inOrder rearranged'
      refine .inr (.inr ⟨_, _, _, _, rfl, rfl, ?_, chronicle, chronicle'⟩)
      exact rearranged.imp fun _ _ one => one.mono fun ordered _ => ordered

/-- Workers agree with taking links in turn: with the order kept, a run gives the same result or
breaks down in the same way. Without it, a run breaks down in the same way, or both have visited
the same pages with the same fetches, and the outcomes of each page are the same up to their order.
A page breaks down with the first link that does. -/
theorem onPool_agrees_with_inTurn (crawler : Crawler τ) (around : Surroundings τ)
    (site : String → Fetched) (steady : ∀ url earlier, around.answer url earlier = site url)
    (calm : Undisturbed crawler around) (limit : Nat) (activity : Activity τ) :
    let pool := Crawling.runOn (crawler.onPool.run around limit) activity
    let inTurn := Crawling.runOn (crawler.inTurn.run around limit) activity
    (crawler.preserveOrder = true → pool.1 = inTurn.1) ∧
    ((∃ abort, pool.1 = .error abort ∧ inTurn.1 = .error abort) ∨
      (pool.1 = .ok none ∧ inTurn.1 = .ok none) ∨
      ∃ given visits : List PageVisit,
        pool.1 = .ok (some (.ofVisits given)) ∧ inTurn.1 = .ok (some (.ofVisits visits)) ∧
        List.Forall₂ (PageVisit.Rearranged False) given visits ∧
        visits.map PageVisit.page = List.range visits.length ∧
        (∀ visit ∈ visits, visit.Complete crawler.inTurn) ∧
        Fetches around False activity.toCourse pool.2.toCourse (visits.flatMap PageVisit.fetches) ∧
        Fetches around True activity.toCourse inTurn.2.toCourse
          (visits.flatMap PageVisit.fetches)) ∧
    ∀ (page : Nat) (html : String) (done rest : List String) (link : String) (abort : Abort)
      (activity : Activity τ), activity.cancelled = false →
      (Crawling.runOn (crawler.discoverLinks html) activity).1 = .ok (done ++ link :: rest) →
      (∀ other ∈ done, ∃ outcome,
        (Crawling.runOn (crawler.processLink around page other) activity).1 = .ok outcome) →
      (Crawling.runOn (crawler.processLink around page link) activity).1 = .error abort →
      (Crawling.runOn (crawler.onPool.crawlPage around html page) activity).1 = .error abort ∧
        (Crawling.runOn (crawler.inTurn.crawlPage around html page) activity).1 =
          .error abort := by
  intro pool inTurn
  have calmPool : Undisturbed crawler.onPool around :=
    ⟨calm.deadline, calm.cancels, calm.interrupts, calm.steps⟩
  have calmInTurn : Undisturbed crawler.inTurn around :=
    ⟨calm.deadline, calm.cancels, calm.interrupts, calm.steps⟩
  obtain ⟨poolAfter, poolRealizes, poolFetched⟩ := run_steady steady calmPool limit activity
  obtain ⟨turnAfter, turnRealizes, turnFetched⟩ := run_steady steady calmInTurn limit activity
  rw [siteVisits_onPool] at poolRealizes
  have agree := agree_of_realizes poolRealizes turnRealizes
  refine ⟨?_, ?_, ?_⟩
  · intro ordered
    obtain ⟨abort, same, same'⟩ | ⟨same, same'⟩ |
      ⟨given, visits, result, result', same, same', rearranged, told, told'⟩ := agree
    · exact same.trans same'.symm
    · exact same.trans same'.symm
    · rw [same, same', told.eq_ofVisits, told'.eq_ofVisits,
        PageVisit.eq_of_rearranged ordered rearranged]
  · obtain ⟨abort, same, same'⟩ | ⟨same, same'⟩ |
      ⟨given, visits, result, result', same, same', rearranged, told, told'⟩ := agree
    · exact .inl ⟨abort, same, same'⟩
    · exact .inr (.inl ⟨same, same'⟩)
    · refine .inr (.inr ⟨given, visits, ?_, ?_, ?_, told'.pages_range, told'.complete, ?_, ?_⟩)
      · rw [← told.eq_ofVisits]
        exact same
      · rw [← told'.eq_ofVisits]
        exact same'
      · exact rearranged.imp fun _ _ one => one.mono False.elim
      · rw [← PageVisit.fetches_of_rearranged rearranged]
        exact (told.fetches.weaken False.elim).congr poolFetched
      · exact (told'.fetches.weaken fun _ => rfl).congr turnFetched
  · intro page html done rest link abort activity running discovered sound breaks
    have kept := (crawler.leads_discoverLinks html activity.toCourse).run_fst.symm.trans discovered
    simp only [leads_processLink_steady steady calm running] at sound breaks
    exact ⟨crawlPage_first_abort steady calmPool running kept sound breaks,
      crawlPage_first_abort steady calmInTurn running kept sound breaks⟩

/-- On the small site, two workers of which the second is first give what taking the links in turn
gives. -/
theorem sample_onPool_eq_inTurn :
    (∀ url earlier, Sample.around.answer url earlier = Sample.site url) ∧
      Undisturbed Sample.crawler Sample.around ∧
      (Crawling.runOn (Sample.crawler.onPool.run Sample.around 2) { startedAt := 0 }).1 =
        (Crawling.runOn (Sample.crawler.inTurn.run Sample.around 2) { startedAt := 0 }).1 := by
  have steady : ∀ url earlier, Sample.around.answer url earlier = Sample.site url :=
    fun _ _ => rfl
  obtain ⟨ordered, -, -⟩ := onPool_agrees_with_inTurn Sample.crawler Sample.around Sample.site
    steady Sample.undisturbed 2 { startedAt := 0 }
  exact ⟨steady, Sample.undisturbed, ordered rfl⟩

end Crawler

end PageHarvest
