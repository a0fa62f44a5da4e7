import PageHarvest.Proofs.Crawl.Steady

/-! # No link is lost

A run that ends gives one outcome for each link that it kept on a page that it could have, and one
failure for each page that it could not have. Its chronicle tells which is which.
-/

namespace PageHarvest

variable {τ : Type}

private theorem length_records_failures (outcomes : List LinkOutcome) :
    (outcomes.filterMap LinkOutcome.record?).length +
      (outcomes.filterMap LinkOutcome.failure?).length = outcomes.length := by
  induction outcomes with
  | nil => rfl
  | cons outcome rest ih =>
    cases outcome with
    | found record =>
      rw [List.filterMap_cons_some (by rfl), List.filterMap_cons_none (by rfl)]
      simp only [List.length_cons]
      omega
    | failed failure =>
      rw [List.filterMap_cons_none (by rfl), List.filterMap_cons_some (by rfl)]
      simp only [List.length_cons]
      omega

namespace PageVisit

variable {crawler : Crawler τ}

private theorem Complete.length_given {visit : PageVisit} (complete : visit.Complete crawler) :
    visit.given.length = visit.handled.length + if visit.isRead then 0 else 1 := by
  cases complete with
  | read discovered became perm same =>
    exact perm.length_eq.trans became.length_eq.symm
  | unreachable => rfl

/-- As many outcomes as links, and one for each page that could not be had. -/
theorem length_given {visits : List PageVisit}
    (complete : ∀ visit ∈ visits, visit.Complete crawler) :
    (visits.flatMap given).length =
      (visits.flatMap handled).length + (visits.filter (!·.isRead)).length := by
  induction visits with
  | nil => rfl
  | cons visit rest ih =>
    have first := (complete visit List.mem_cons_self).length_given
    have others := ih fun one member => complete one (List.mem_cons_of_mem _ member)
    rw [List.flatMap_cons, List.flatMap_cons, List.length_append, List.length_append, first, others,
      List.filter_cons]
    cases visit.isRead with
    | false => simp; omega
    | true => simp; omega

end PageVisit

namespace Crawler

/-- A run that ends gives exactly one outcome for each link that it kept and one failure for each
page that it could not have, and fetches nothing else: its visits tell how every link was dealt
with, and records and failures stand in the order of the pages and, if it is kept, of the links. -/
theorem run_accounts_for_links (crawler : Crawler τ) (around : Surroundings τ) (limit : Nat)
    (activity : Activity τ) {result : CrawlResult}
    (ended : (Crawling.runOn (crawler.run around limit) activity).1 = .ok (some result)) :
    ∃ visits : List PageVisit,
      visits.map PageVisit.page = List.range visits.length ∧
      (∀ visit ∈ visits, visit.Complete crawler) ∧
      Fetches around (crawler.parallel = false) activity.toCourse
        (Crawling.runOn (crawler.run around limit) activity).2.toCourse
        (visits.flatMap PageVisit.fetches) ∧
      result = .ofVisits visits ∧
      result.records.length + result.failures.length =
        (visits.flatMap PageVisit.handled).length + (visits.filter (!·.isRead)).length := by
  obtain ⟨outcome, after, walks, given, reached⟩ := crawler.run_walks around limit activity
  have ended : outcome = .ok (some result) := given.symm.trans ended
  obtain ⟨visits, chronicle⟩ := walks.chronicle ended
  have whole := chronicle.eq_ofVisits
  refine ⟨visits, chronicle.pages_range, chronicle.complete, ?_, whole, ?_⟩
  · rw [reached, ended]
    exact chronicle.fetches
  · rw [whole, ← PageVisit.length_given chronicle.complete]
    exact length_records_failures _

/-- Every link of the small site is accounted for when two workers share its links. -/
theorem sample_accounts_for_links :
    let start : Activity Nat := { startedAt := 0 }
    let ran := Crawling.runOn (Sample.crawler.run Sample.around 2) start
    ∃ result, ran.1 = .ok (some result) ∧ ∃ visits : List PageVisit,
      visits.map PageVisit.page = List.range visits.length ∧
      (∀ visit ∈ visits, visit.Complete Sample.crawler) ∧
      Fetches Sample.around (Sample.crawler.parallel = false) start.toCourse ran.2.toCourse
        (visits.flatMap PageVisit.fetches) ∧
      result = .ofVisits visits ∧
      result.records.length + result.failures.length =
        (visits.flatMap PageVisit.handled).length + (visits.filter (!·.isRead)).length := by
  obtain ⟨_, tells⟩ := Sample.siteVisits_crawler
  obtain ⟨result, ended⟩ :=
    run_ends_of_siteVisits (fun _ _ => rfl) Sample.undisturbed tells { startedAt := 0 }
  exact ⟨result, ended,
    run_accounts_for_links Sample.crawler Sample.around 2 { startedAt := 0 } ended⟩

end Crawler

end PageHarvest
