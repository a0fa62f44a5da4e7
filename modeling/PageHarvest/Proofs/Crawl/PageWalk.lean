import PageHarvest.Proofs.Crawl.Extent
import PageHarvest.Proofs.Crawl.Pace
import PageHarvest.Proofs.Crawl.Steady

/-! # Which pages a walk visits

On a steady site where everything can be read and nothing stops the crawl, the paging and the site
tell how many pages a walk visits. The pages are fetched one after another from the first, each
followed by its links, and a walk without a bound goes on for ever if every page gives a record.
-/

namespace PageHarvest

variable {τ : Type}

namespace PageVisit

/-- Everything that a visit met is what the site gives. -/
structure OfSite (site : String → Fetched) (visit : PageVisit) : Prop where
  answer : visit.answer = site visit.url
  handled : visit.handled = (visit.handled.map Handled.link).map (.ofSite site)

/-- The URLs that a visit fetched: its page first, then the links, which come in their order if they
are taken in turn. -/
def Took (visit : PageVisit) (inTurn : Prop) (urls : List String) : Prop :=
  ∃ links, urls = visit.url :: links ∧ links.Perm (visit.handled.map Handled.link) ∧
    (inTurn → links = visit.handled.map Handled.link)

end PageVisit

private theorem Handled.fetches_ofSite (site : String → Fetched) (links : List String) :
    ((links.map (Handled.ofSite site)).flatMap Handled.fetches).map Prod.fst = links := by
  induction links with
  | nil => rfl
  | cons link rest ih =>
    rw [List.map_cons, List.flatMap_cons, List.map_append, ih]
    rfl

namespace Crawler

variable {crawler : Crawler τ} {site : String → Fetched}

/-! ## One visit -/

/-- A page gives a record just if it is fruitful. -/
theorem records_eq_nil_iff {page : Nat} {html : String} {links : List String}
    {outcomes : List LinkOutcome} (gives : site (crawler.pageUrl page) = .document html)
    (kept : crawler.keptLinks html = .ok links)
    (decided : (links.map (.ofSite site)).mapM (crawler.decision page) = .ok outcomes) :
    outcomes.filterMap LinkOutcome.record? = [] ↔ ¬crawler.Fruitful site page := by
  rw [List.filterMap_eq_nil_iff]
  constructor
  · rintro none ⟨html', links', link, document, record, gives', kept', member, answered, harvested⟩
    obtain rfl := Fetched.document.inj (gives.symm.trans gives')
    obtain rfl := Except.ok.inj (kept.symm.trans kept')
    have decides : crawler.decision page (.ofSite site link) = .ok (.found record) := by
      simp only [Handled.ofSite, decision, answered, Crawling.readingOutcome_eq_ok.mpr harvested]
      rfl
    have among := mem_of_mapM_eq_ok decided (List.mem_map_of_mem member) decides
    exact absurd (none _ among) (by simp [LinkOutcome.record?])
  · intro fruitless outcome among
    cases outcome with
    | failed failure => rfl
    | found record =>
      obtain ⟨handled, member, decides⟩ := exists_of_mem_mapM decided among
      obtain ⟨link, onPage, rfl⟩ := List.mem_map.mp member
      have became := became_of_decision decides
      rw [Handled.ofSite] at became
      cases answered : site link with
      | document document =>
        rw [answered] at became
        cases became with
        | found harvested labelled =>
          exact absurd ⟨html, links, link, document, record, gives, kept, onPage, answered,
            harvested⟩ fruitless
      | failed failure =>
        rw [answered] at became
        cases became
      | crashed crash =>
        rw [answered] at became
        cases became

section

variable {around : Surroundings τ}
  (steady : ∀ url earlier, around.answer url earlier = site url)
  (readable : Readable crawler around)
  (listed : ∀ page html, site (crawler.pageUrl page) = .document html →
    ∃ links, crawler.keptLinks html = .ok links)

include steady readable

private theorem exists_decision_ofSite (page : Nat) (link : String) :
    ∃ outcome, crawler.decision page (.ofSite site link) = .ok outcome := by
  have fits : (Handled.ofSite site link).Fits around True := ⟨0, (steady link 0).symm⟩
  exact exists_decision readable page fits

include listed

/-- A page that is due is visited, unless it is the first and cannot be had. -/
theorem exists_siteVisit {page : Nat} (due : crawler.paging.isDue page = true)
    (opens : crawler.Opens site page) :
    ∃ visit, crawler.siteVisit site page = .ok (some visit) ∧ visit.OfSite site ∧
      (crawler.endsAfter visit = true ↔ crawler.Ends site page) := by
  cases gives : site (crawler.pageUrl page) with
  | crashed crash =>
    rw [← steady _ 0] at gives
    exact absurd gives (readable.uncrashed _ 0 crash)
  | failed failure =>
    have later : page ≠ 0 := fun first => opens due first failure gives
    have barren : ¬crawler.Fruitful site page := by
      rintro ⟨html, links, link, document, record, gives', -⟩
      rw [gives] at gives'
      cases gives'
    refine ⟨⟨page, crawler.pageUrl page, .failed failure, [], []⟩, ?_, ⟨gives.symm, rfl⟩, ?_⟩
    · simp only [siteVisit, due, if_true, gives, if_neg later]
    · simp [endsAfter, Ends, PageVisit.given, LinkOutcome.record?, barren]
  | document html =>
    obtain ⟨links, kept⟩ := listed _ html gives
    have decides : ∀ one ∈ links.map (Handled.ofSite site),
        ∃ outcome, crawler.decision page one = .ok outcome := by
      intro one member
      obtain ⟨link, -, rfl⟩ := List.mem_map.mp member
      exact exists_decision_ofSite steady readable page link
    obtain ⟨outcomes, decided⟩ := exists_mapM_eq_ok decides
    refine ⟨⟨page, crawler.pageUrl page, .document html, links.map (.ofSite site), outcomes⟩,
      ?_, ⟨gives.symm, ?_⟩, ?_⟩
    · rw [siteVisit_document due gives kept, decided]
      rfl
    · simp [List.map_map, Function.comp_def, Handled.ofSite]
    · have records := records_eq_nil_iff gives kept decided
      simp [endsAfter, Ends, PageVisit.given, records]

end

/-! ## Tours -/

/-- What visits from a page on tell about a walk over a steady site: its chronicle, and which URLs
each of them took. -/
structure Tour (crawler : Crawler τ) (around : Surroundings τ) (site : String → Fetched)
    (page : Nat) (before : CrawlResult) (course : Course τ) (result : CrawlResult)
    (after : Course τ) (visits : List PageVisit) (taken : List (List String)) : Prop where
  chronicle : Chronicle crawler around page before course result after visits
  ofSite : ∀ visit ∈ visits, visit.OfSite site
  took : List.Forall₂ (fun visit urls => visit.Took (crawler.parallel = false) urls) visits taken
  fetched : after.fetched = course.fetched ++ taken.flatten

section

variable {around : Surroundings τ} {page : Nat} {before result between : CrawlResult}
  {course middle after : Course τ}

private theorem tour_nil (same : after.fetched = course.fetched) :
    Tour crawler around site page before course before after [] [] where
  chronicle := chronicle_nil same
  ofSite := nofun
  took := .nil
  fetched := by rw [same, List.flatten_nil, List.append_nil]

private theorem tour_cons {visit : PageVisit} {urls : List String} {visits : List PageVisit}
    {taken : List (List String)}
    (first : Tour crawler around site page before course between middle [visit] [urls])
    (rest : Tour crawler around site (page + 1) between middle result after visits taken) :
    Tour crawler around site page before course result after (visit :: visits)
      (urls :: taken) where
  chronicle := chronicle_cons first.chronicle rest.chronicle
  ofSite := by
    intro one member
    rcases List.mem_cons.mp member with rfl | later
    · exact first.ofSite one List.mem_cons_self
    · exact rest.ofSite one later
  took := by
    cases first.took with
    | cons took _ => exact .cons took rest.took
  fetched := by
    rw [rest.fetched, first.fetched, List.flatten_cons, List.flatten_cons, List.flatten_nil,
      List.append_nil, List.append_assoc]

/-- A page that is due is fetched before anything else. -/
theorem Visits.asked_first (calm : Undisturbed crawler around) (running : course.cancelled = false)
    (due : crawler.paging.isDue page = true) {outcome : Except Abort Turn}
    (visits : crawler.Visits around page before course outcome after) :
    (crawler.pageAsked around page course).fetched <+: after.fetched := by
  cases visits with
  | ended past =>
    rw [due] at past
    cases past
  | stopped _ reasoned =>
    rw [reasonOn_eq_none calm running] at reasoned
    cases reasoned
  | crashed | unreachable | unreadable => exact List.prefix_refl _
  | read _ _ _ _ account => exact account.grows

/-- A visit took its page first. -/
theorem exists_took {visit : PageVisit} (ofSite : visit.OfSite site)
    (chronicle : Chronicle crawler around page before course result after [visit])
    (first : (crawler.pageAsked around page course).fetched <+: after.fetched) :
    ∃ urls, visit.Took (crawler.parallel = false) urls ∧
      after.fetched = course.fetched ++ urls := by
  obtain ⟨urls, reached, perm, same⟩ := chronicle.fetches
  rw [List.flatMap_singleton] at perm same
  have here : visit.page = page := by simpa using chronicle.pages
  have url : visit.url = crawler.pageUrl page := by
    rw [← here]
    cases chronicle.complete visit List.mem_cons_self with
    | read | unreachable => rfl
  have listed : visit.fetches.map Prod.fst = visit.url :: visit.handled.map Handled.link := by
    rw [PageVisit.fetches, List.map_cons, ofSite.handled, Handled.fetches_ofSite]
    simp [List.map_map, Function.comp_def, Handled.ofSite]
  have urlsPerm := perm.map Prod.fst
  rw [around.answers_fst, listed] at urlsPerm
  have front : [crawler.pageUrl page] <+: urls := by
    rw [reached] at first
    exact (List.prefix_append_right_inj course.fetched).mp first
  obtain ⟨links, rfl⟩ := front
  rw [← url, List.singleton_append] at urlsPerm
  refine ⟨_, ⟨links, by rw [url]; rfl, (List.perm_cons _).mp urlsPerm, ?_⟩, reached⟩
  intro inTurn
  have exactly := congrArg (List.map Prod.fst) (same inTurn)
  rw [around.answers_fst, listed, ← url] at exactly
  exact (List.cons.inj exactly).2

variable (steady : ∀ url earlier, around.answer url earlier = site url)
  (calm : Undisturbed crawler around) (readable : Readable crawler around)
  (listed : ∀ page html, site (crawler.pageUrl page) = .document html →
    ∃ links, crawler.keptLinks html = .ok links)

include steady calm readable listed

/-- What one visit comes to. -/
theorem Visits.toured (due : crawler.paging.isDue page = true)
    (opens : crawler.Opens site page) (running : course.cancelled = false)
    {outcome : Except Abort Turn}
    (visits : crawler.Visits around page before course outcome after) :
    ∃ visit urls result,
      (crawler.Ends site page ∧ outcome = .ok (.done result) ∨
        ¬crawler.Ends site page ∧ outcome = .ok (.next result)) ∧
      Tour crawler around site page before course result after [visit] [urls] ∧
      after.cancelled = false := by
  obtain ⟨visit, tells, ofSite, ends⟩ := exists_siteVisit steady readable listed due opens
  have first := visits.asked_first calm running due
  rcases visits.steady steady calm running with
    ⟨abort, told, -⟩ | ⟨told, -, -⟩ |
    ⟨other, given, result, told, rearranged, turn, chronicle, still⟩
  · rw [tells] at told
    cases told
  · rw [tells] at told
    cases told
  · rw [tells] at told
    cases told
    have ofSite' : given.OfSite site := by
      constructor
      · rw [rearranged.answer, rearranged.url, ofSite.answer]
      · rw [rearranged.handled]
        exact ofSite.handled
    obtain ⟨urls, took, fetched⟩ := exists_took ofSite' chronicle first
    refine ⟨given, urls, result, ?_, ⟨chronicle, ?_, .cons took .nil, ?_⟩, still⟩
    · rw [turn, turnAfter]
      by_cases last : crawler.Ends site page
      · exact .inl ⟨last, by rw [if_pos (ends.mpr last)]⟩
      · exact .inr ⟨last, by rw [if_neg (mt ends.mp last)]⟩
    · exact List.forall_mem_singleton.mpr ofSite'
    · rw [fetched, List.flatten_cons, List.flatten_nil, List.append_nil]

omit steady calm readable listed in
private theorem Visits.of_not_due (past : crawler.paging.isDue page = false)
    {outcome : Except Abort Turn}
    (visits : crawler.Visits around page before course outcome after) :
    outcome = .ok (.done before) ∧ after = course := by
  cases visits with
  | ended => exact ⟨rfl, rfl⟩
  | stopped due | crashed due | unreachable due | unreadable due | read due =>
    rw [due] at past
    cases past

/-! ## Walks -/

/-- What a walk over one more page comes to. -/
theorem Walks.step {limit : Nat}
    (opens : crawler.Opens site page) (running : course.cancelled = false)
    {outcome : Except Abort (Option CrawlResult)}
    (walks : crawler.Walks around (limit + 1) page before course outcome after) :
    (crawler.paging.isDue page = false ∧ outcome = .ok (some before) ∧ after = course) ∨
      crawler.paging.isDue page = true ∧ ∃ visit urls result middle,
        Tour crawler around site page before course result middle [visit] [urls] ∧
        middle.cancelled = false ∧
        (crawler.Ends site page ∧ outcome = .ok (some result) ∧ after = middle ∨
          ¬crawler.Ends site page ∧
            crawler.Walks around limit (page + 1) result middle outcome after) := by
  cases due : crawler.paging.isDue page with
  | false =>
    refine .inl ⟨rfl, ?_⟩
    cases walks with
    | broken visits => cases (visits.of_not_due due).1
    | done visits =>
      obtain ⟨same, still⟩ := visits.of_not_due due
      cases same
      exact ⟨rfl, still⟩
    | next visits => cases (visits.of_not_due due).1
  | true =>
    refine .inr ⟨rfl, ?_⟩
    cases walks with
    | broken visits =>
      obtain ⟨_, _, _, ⟨_, impossible⟩ | ⟨_, impossible⟩, -⟩ :=
        visits.toured steady calm readable listed due opens running
      · cases impossible
      · cases impossible
    | done visits =>
      obtain ⟨visit, urls, result, ⟨ends, same⟩ | ⟨_, impossible⟩, tour, still⟩ :=
        visits.toured steady calm readable listed due opens running
      · cases same
        exact ⟨visit, urls, _, _, tour, still, .inl ⟨ends, rfl, rfl⟩⟩
      · cases impossible
    | next visits rest =>
      obtain ⟨visit, urls, result, ⟨_, impossible⟩ | ⟨goesOn, same⟩, tour, still⟩ :=
        visits.toured steady calm readable listed due opens running
      · cases impossible
      · cases same
        exact ⟨visit, urls, _, _, tour, still, .inr ⟨goesOn, rest⟩⟩

/-- Only a first page that cannot be had breaks a walk down. -/
theorem Walks.sound {limit : Nat}
    (opens : crawler.Opens site page) (running : course.cancelled = false)
    {outcome : Except Abort (Option CrawlResult)}
    (walks : crawler.Walks around limit page before course outcome after) :
    ∃ last, outcome = .ok last := by
  induction limit generalizing page before course with
  | zero =>
    cases walks
    exact ⟨none, rfl⟩
  | succ limit ih =>
    rcases walks.step steady calm readable listed opens running with
      ⟨-, same, -⟩ | ⟨-, _, _, _, middle, -, still, ⟨-, same, -⟩ | ⟨-, rest⟩⟩
    · exact ⟨_, same⟩
    · exact ⟨_, same⟩
    · exact ih (opens_succ page) still rest

/-- A walk that lasts for so many pages visits them and ends. -/
theorem Walks.lasting {count : Nat} (lasts : crawler.Lasts site page count) {limit : Nat}
    (enough : count < limit) (opens : crawler.Opens site page)
    (running : course.cancelled = false)
    {outcome : Except Abort (Option CrawlResult)}
    (walks : crawler.Walks around limit page before course outcome after) :
    ∃ result visits taken, outcome = .ok (some result) ∧ visits.length = count ∧
      Tour crawler around site page before course result after visits taken := by
  induction lasts generalizing limit before course with
  | ended past =>
    obtain ⟨limit, rfl⟩ := Nat.exists_eq_succ_of_ne_zero (Nat.ne_zero_of_lt enough)
    rcases walks.step steady calm readable listed opens running with
      ⟨-, same, rfl⟩ | ⟨due, -⟩
    · exact ⟨before, [], [], same, rfl, tour_nil rfl⟩
    · rw [past] at due
      cases due
  | last due ends =>
    obtain ⟨limit, rfl⟩ := Nat.exists_eq_succ_of_ne_zero (Nat.ne_zero_of_lt enough)
    rcases walks.step steady calm readable listed opens running with
      ⟨past, -⟩ | ⟨-, visit, urls, result, middle, tour, -, ⟨-, same, rfl⟩ | ⟨goesOn, -⟩⟩
    · rw [due] at past
      cases past
    · exact ⟨result, [visit], [urls], same, rfl, tour⟩
    · exact absurd ends goesOn
  | more due goesOn rest ih =>
    obtain ⟨limit, rfl⟩ := Nat.exists_eq_succ_of_ne_zero (Nat.ne_zero_of_lt enough)
    rcases walks.step steady calm readable listed opens running with
      ⟨past, -⟩ | ⟨-, visit, urls, between, middle, first, still, ⟨ends, -⟩ | ⟨-, walks⟩⟩
    · rw [due] at past
      cases past
    · exact absurd ends goesOn
    · obtain ⟨result, visits, taken, same, length, others⟩ :=
        ih (Nat.lt_of_succ_lt_succ enough) (opens_succ _) still walks
      refine ⟨result, visit :: visits, urls :: taken, same, ?_, tour_cons first others⟩
      rw [List.length_cons, length]

/-- A walk in which every page gives a record and the next one is due never ends. -/
theorem Walks.endless {limit : Nat}
    (endless : ∀ later, page ≤ later → crawler.paging.isDue later = true ∧
      crawler.Fruitful site later)
    (running : course.cancelled = false)
    {outcome : Except Abort (Option CrawlResult)}
    (walks : crawler.Walks around limit page before course outcome after) : outcome = .ok none := by
  induction limit generalizing page before course with
  | zero =>
    cases walks
    rfl
  | succ limit ih =>
    obtain ⟨due, fruitful⟩ := endless page (Nat.le_refl page)
    have opens : crawler.Opens site page := by
      intro _ _ failure gives
      obtain ⟨html, _, _, _, _, gives', -⟩ := fruitful
      rw [gives] at gives'
      cases gives'
    rcases walks.step steady calm readable listed opens running with
      ⟨past, -⟩ | ⟨-, _, _, _, middle, -, still, ⟨ends, -⟩ | ⟨-, rest⟩⟩
    · rw [due] at past
      cases past
    · exact absurd fruitful ends.2
    · exact ih (fun later after => endless later (by omega)) still rest

omit readable listed in
/-- A first page that is due and cannot be had breaks a walk down. -/
theorem Walks.unreachable_seed {limit : Nat} {failure : FetchFailure}
    (due : crawler.paging.isDue 0 = true) (gives : site (crawler.pageUrl 0) = .failed failure)
    (running : course.cancelled = false)
    {outcome : Except Abort (Option CrawlResult)}
    (walks : crawler.Walks around (limit + 1) 0 before course outcome after) :
    outcome = .error (.seed ⟨crawler.pageUrl 0, failure.reason⟩) := by
  have tells : crawler.siteVisit site 0 = .error (.seed ⟨crawler.pageUrl 0, failure.reason⟩) := by
    simp only [siteVisit, due, if_true, gives]
  have breaks {turn : Except Abort Turn} {reached : Course τ}
      (visits : crawler.Visits around 0 before course turn reached) :
      turn = .error (.seed ⟨crawler.pageUrl 0, failure.reason⟩) := by
    rcases visits.steady steady calm running with
      ⟨abort, told, same⟩ | ⟨told, -⟩ | ⟨_, _, _, told, -⟩
    · rw [tells] at told
      cases told
      exact same
    · rw [tells] at told
      cases told
    · rw [tells] at told
      cases told
  cases walks with
  | broken visits => cases breaks visits; rfl
  | done visits => cases breaks visits
  | next visits => cases breaks visits

end

/-! ## Runs -/

section

variable {around : Surroundings τ}
  (steady : ∀ url earlier, around.answer url earlier = site url)
  (calm : Undisturbed crawler around) (readable : Readable crawler around)
  (listed : ∀ page html, site (crawler.pageUrl page) = .document html →
    ∃ links, crawler.keptLinks html = .ok links)
  (activity : Activity τ)

include steady calm readable listed

/-- A run breaks down just if its first page is due and cannot be had. -/
theorem run_aborts_iff {limit : Nat} (positive : 0 < limit) (abort : Abort) :
    (Crawling.runOn (crawler.run around limit) activity).1 = .error abort ↔
      crawler.paging.isDue 0 = true ∧ ∃ failure, site (crawler.pageUrl 0) = .failed failure ∧
        abort = .seed ⟨crawler.pageUrl 0, failure.reason⟩ := by
  obtain ⟨limit, rfl⟩ := Nat.exists_eq_succ_of_ne_zero (Nat.ne_zero_of_lt positive)
  obtain ⟨outcome, after, walks, given, -⟩ := crawler.run_walks around (limit + 1) activity
  rw [given]
  constructor
  · intro broken
    by_contra fine
    have opens : crawler.Opens site 0 := by
      intro due _ failure gives
      have breaks := walks.unreachable_seed steady calm due gives rfl
      exact fine ⟨due, failure, gives, Except.error.inj (broken.symm.trans breaks)⟩
    obtain ⟨last, sound⟩ := walks.sound steady calm readable listed opens rfl
    rw [broken] at sound
    cases sound
  · rintro ⟨due, failure, gives, rfl⟩
    exact walks.unreachable_seed steady calm due gives rfl

/-- A run that lasts for so many pages ends after visiting them. -/
theorem run_lasting {count limit : Nat} (lasts : crawler.Lasts site 0 count)
    (opens : crawler.Opens site 0) (enough : count < limit) :
    ∃ visits taken,
      (Crawling.runOn (crawler.run around limit) activity).1 = .ok (some (.ofVisits visits)) ∧
      visits.map PageVisit.page = List.range count ∧
      (∀ visit ∈ visits, visit.Complete crawler ∧ visit.OfSite site) ∧
      List.Forall₂ (fun visit urls => visit.Took (crawler.parallel = false) urls) visits taken ∧
      (Crawling.runOn (crawler.run around limit) activity).2.fetched =
        activity.fetched ++ taken.flatten := by
  obtain ⟨outcome, after, walks, given, reached⟩ := crawler.run_walks around limit activity
  obtain ⟨result, visits, taken, same, length, tour⟩ :=
    walks.lasting steady calm readable listed lasts enough opens rfl
  have chronicle := tour.chronicle
  have fetched := congrArg Course.fetched reached
  rw [concluded_fetched] at fetched
  refine ⟨visits, taken, ?_, ?_, ?_, tour.took, ?_⟩
  · rw [given, same, chronicle.eq_ofVisits]
  · rw [chronicle.pages_range, length]
  · intro visit member
    exact ⟨chronicle.complete visit member, tour.ofSite visit member⟩
  · rw [fetched, tour.fetched]
    rfl

/-- An indefinite run without a bound ends just if some page is not fruitful. -/
theorem run_ends_iff (mode : crawler.paging.mode = .indefinite)
    (pages : crawler.paging.pages = none) :
    (∃ limit, (Crawling.runOn (crawler.run around limit) activity).1 ≠ .ok none) ↔
      ∃ page, ¬crawler.Fruitful site page := by
  constructor
  · rintro ⟨limit, ended⟩
    by_contra fruitful
    rw [not_exists_not] at fruitful
    apply ended
    obtain ⟨outcome, after, walks, given, -⟩ := crawler.run_walks around limit activity
    rw [given]
    refine walks.endless steady calm readable listed (fun page _ => ⟨?_, fruitful page⟩) rfl
    rw [Paging.isDue, mode, pages]
    rfl
  · rintro ⟨page, barren⟩
    by_cases opens : crawler.Opens site 0
    · obtain ⟨count, extent⟩ := exists_extent_iff.mpr fun endless => barren (endless.2.2 page)
      obtain ⟨visits, taken, given, -⟩ := run_lasting steady calm readable listed activity
        extent.lasts opens (Nat.lt_succ_self count)
      refine ⟨count + 1, ?_⟩
      rw [given]
      intro same
      cases same
    · simp only [Opens, not_forall, not_not] at opens
      obtain ⟨due, -, failure, gives⟩ := opens
      have aborts := run_aborts_iff steady calm readable listed activity Nat.one_pos
        (.seed ⟨crawler.pageUrl 0, failure.reason⟩)
      refine ⟨1, ?_⟩
      rw [aborts.mpr ⟨due, failure, gives, rfl⟩]
      intro same
      cases same

/-- A run without a page that is due does nothing. -/
theorem run_of_not_due (past : crawler.paging.isDue 0 = false) {limit : Nat}
    (positive : 0 < limit) :
    (Crawling.runOn (crawler.run around limit) activity).1 = .ok (some {}) ∧
      (Crawling.runOn (crawler.run around limit) activity).2.fetched = activity.fetched := by
  have opens : crawler.Opens site 0 := by
    intro due
    rw [past] at due
    cases due
  obtain ⟨visits, taken, given, none, -, took, fetched⟩ :=
    run_lasting steady calm readable listed activity (.ended past) opens positive
  obtain rfl := List.map_eq_nil_iff.mp none
  cases took
  rw [given, fetched, List.flatten_nil, List.append_nil]
  exact ⟨rfl, rfl⟩

end

/-- The pages that a run visits on a steady site where everything can be read. It breaks down just
if a first page is due and cannot be had. Otherwise it visits the pages of its extent in order,
gives what they give one after the other, and fetches each page once, followed by its links. Without
paging its page is the seed itself. A run has an extent unless it is indefinite without a bound and
every page gives a record, and then it never ends. If no page is due it gives nothing and fetches
nothing. -/
theorem run_visits_extent (crawler : Crawler τ) (around : Surroundings τ) (site : String → Fetched)
    (steady : ∀ url earlier, around.answer url earlier = site url)
    (calm : Undisturbed crawler around) (readable : Readable crawler around)
    (listed : ∀ page html, site (crawler.pageUrl page) = .document html →
      ∃ links, crawler.keptLinks html = .ok links)
    (activity : Activity τ) :
    (∀ limit abort, 0 < limit →
      ((Crawling.runOn (crawler.run around limit) activity).1 = .error abort ↔
        (crawler.paging.mode = .disabled ∨
          ∀ bound, crawler.paging.pages = some bound → 0 < bound) ∧
        ∃ failure, site (crawler.pageUrl 0) = .failed failure ∧
          abort = .seed ⟨crawler.pageUrl 0, failure.reason⟩)) ∧
    (∀ count, crawler.Extent site count →
      (0 < count → ∀ failure, site (crawler.pageUrl 0) ≠ .failed failure) →
      ∀ limit, count < limit → ∃ visits taken,
        (Crawling.runOn (crawler.run around limit) activity).1 = .ok (some (.ofVisits visits)) ∧
        visits.map PageVisit.page = List.range count ∧
        (∀ visit ∈ visits, visit.Complete crawler ∧ visit.OfSite site) ∧
        List.Forall₂ (fun visit urls => visit.Took (crawler.parallel = false) urls) visits taken ∧
        (Crawling.runOn (crawler.run around limit) activity).2.fetched =
          activity.fetched ++ taken.flatten) ∧
    (crawler.paging.mode = .disabled → crawler.pageUrl 0 = crawler.baseUrl) ∧
    ((∃ count, crawler.Extent site count) ↔
      ¬(crawler.paging.mode = .indefinite ∧ crawler.paging.pages = none ∧
        ∀ page, crawler.Fruitful site page)) ∧
    (crawler.paging.mode = .indefinite → crawler.paging.pages = none →
      ((∃ limit, (Crawling.runOn (crawler.run around limit) activity).1 ≠ .ok none) ↔
        ∃ page, ¬crawler.Fruitful site page)) ∧
    ((∀ page, crawler.paging.isDue page = false) → ∀ limit, 0 < limit →
      (Crawling.runOn (crawler.run around limit) activity).1 = .ok (some {}) ∧
      (Crawling.runOn (crawler.run around limit) activity).2.fetched = activity.fetched) := by
  refine ⟨?_, ?_, pageUrl_of_disabled, exists_extent_iff, ?_, ?_⟩
  · intro limit abort positive
    rw [← isDue_zero]
    exact run_aborts_iff steady calm readable listed activity positive abort
  · intro count extent reachable limit enough
    have opens : crawler.Opens site 0 := by
      intro due _
      apply reachable
      cases extent.lasts with
      | ended past =>
        rw [due] at past
        cases past
      | last | more => exact Nat.succ_pos _
    exact run_lasting steady calm readable listed activity extent.lasts opens enough
  · exact run_ends_iff steady calm readable listed activity
  · intro past limit positive
    exact run_of_not_due steady calm readable listed activity (past 0) positive

end Crawler

/-! ## A small site with pages -/

namespace Sample

/-- A listing as first page, a second page without links, and the documents of the small site. -/
def pagedSite (url : String) : Fetched :=
  if url = "s0" then .document listing
  else if url = "s1" then .document "<p></p>"
  else site url

/-- A crawler that walks the pages as long as they give records. -/
def pagedCrawler : Crawler Nat :=
  { crawler with paging := ⟨.indefinite, Paging.placeholder, none, by decide +kernel⟩ }

/-- The site with pages, a clock and workers. -/
def pagedAround : Surroundings Nat := { around with answer := fun url _ => pagedSite url }

private theorem paged_undisturbed : Undisturbed pagedCrawler pagedAround where
  deadline := rfl
  cancels _ _ := rfl
  interrupts _ := rfl
  steps := undisturbed.steps

private theorem paged_readable : Readable pagedCrawler pagedAround := by
  refine ⟨?_, fun _ _ _ _ => ⟨_, rfl⟩⟩
  intro url earlier crash
  simp only [pagedAround, pagedSite]
  split
  · exact nofun
  · split
    · exact nofun
    · exact site_ne_crashed url crash

/-- The documents of the site and their links. -/
theorem pagedSite_document {url html : String} (gives : pagedSite url = .document html) :
    html = listing ∨ html = "<p></p>" ∨ html = "<p>x</p>" := by
  simp only [pagedSite, site] at gives
  split at gives
  · exact .inl (Fetched.document.inj gives).symm
  · split at gives
    · exact .inr (.inl (Fetched.document.inj gives).symm)
    · split at gives
      · exact .inl (Fetched.document.inj gives).symm
      · split at gives
        · exact .inr (.inr (Fetched.document.inj gives).symm)
        · cases gives

private theorem keptLinks_of_toOption {html : String} {links : List String}
    (told : (pagedCrawler.keptLinks html).toOption = some links) :
    pagedCrawler.keptLinks html = .ok links := by
  cases found : pagedCrawler.keptLinks html with
  | ok given =>
    rw [found] at told
    exact congrArg Except.ok (Option.some.inj told)
  | error abort =>
    rw [found] at told
    cases told

private theorem keptLinks_listing : pagedCrawler.keptLinks listing = .ok ["u", "v"] :=
  keptLinks_of_toOption (by decide +kernel)

private theorem keptLinks_second : pagedCrawler.keptLinks "<p></p>" = .ok [] :=
  keptLinks_of_toOption (by decide +kernel)

private theorem paged_listed (page : Nat) (html : String)
    (gives : pagedSite (pagedCrawler.pageUrl page) = .document html) :
    ∃ links, pagedCrawler.keptLinks html = .ok links := by
  rcases pagedSite_document gives with rfl | rfl | rfl
  · exact ⟨_, keptLinks_listing⟩
  · exact ⟨_, keptLinks_second⟩
  · exact ⟨[], keptLinks_of_toOption (by decide +kernel)⟩

private theorem pagedSite_first : pagedSite (pagedCrawler.pageUrl 0) = .document listing := by
  decide +kernel

private theorem pagedSite_second : pagedSite (pagedCrawler.pageUrl 1) = .document "<p></p>" := by
  decide +kernel

/-- The walk ends with the second page, which gives no record. -/
theorem paged_extent : pagedCrawler.Extent pagedSite 2 := by
  refine .barren rfl nofun ?_ ?_
  · intro page less
    obtain rfl := Nat.lt_one_iff.mp less
    have answered : pagedSite "u" = .document "<p>x</p>" := by decide
    exact ⟨_, _, "u", _, _, pagedSite_first, keptLinks_listing, List.mem_cons_self, answered, rfl⟩
  · rintro ⟨html, links, link, document, record, gives, kept, member, -⟩
    obtain rfl := Fetched.document.inj (pagedSite_second.symm.trans gives)
    obtain rfl := Except.ok.inj (keptLinks_second.symm.trans kept)
    cases member

end Sample

namespace Crawler

/-- An indefinite walk over the small site with pages visits both of them. -/
theorem sample_visits_two_pages :
    (∀ url earlier, Sample.pagedAround.answer url earlier = Sample.pagedSite url) ∧
      Undisturbed Sample.pagedCrawler Sample.pagedAround ∧
      Readable Sample.pagedCrawler Sample.pagedAround ∧
      Sample.pagedCrawler.Extent Sample.pagedSite 2 ∧
      ∃ visits : List PageVisit,
        (Crawling.runOn (Sample.pagedCrawler.run Sample.pagedAround 3) { startedAt := 0 }).1 =
          .ok (some (.ofVisits visits)) ∧
        visits.map PageVisit.page = [0, 1] := by
  have steady : ∀ url earlier, Sample.pagedAround.answer url earlier = Sample.pagedSite url :=
    fun _ _ => rfl
  have reached : 0 < 2 →
      ∀ failure, Sample.pagedSite (Sample.pagedCrawler.pageUrl 0) ≠ .failed failure := by
    intro _ failure fails
    rw [Sample.pagedSite_first] at fails
    cases fails
  obtain ⟨-, extents, -⟩ := run_visits_extent Sample.pagedCrawler Sample.pagedAround
    Sample.pagedSite steady Sample.paged_undisturbed Sample.paged_readable Sample.paged_listed
    { startedAt := 0 }
  obtain ⟨visits, -, given, pages, -⟩ := extents 2 Sample.paged_extent reached 3 (by decide)
  exact ⟨steady, Sample.paged_undisturbed, Sample.paged_readable, Sample.paged_extent, visits,
    given, pages⟩

end Crawler

end PageHarvest
