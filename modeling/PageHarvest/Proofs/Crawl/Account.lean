import PageHarvest.Proofs.Crawl.Ledger

/-! # Accounts of a page

The account of a page pairs each link with how it was dealt with, whoever did it and in whatever
order. Both ways of processing links keep such an account: what they give is what becomes of the
links, put in their order if that is asked, or the breakdown of the first link that has one.
-/

namespace PageHarvest

variable {τ : Type}

/-- Outcomes are given in the order of the links if it is kept, and in any order otherwise. A
breakdown is given as it is. -/
inductive Arranged (inOrder : Prop) :
    Except Abort (List LinkOutcome) → Except Abort (List LinkOutcome) → Prop
  | error (abort : Abort) : Arranged inOrder (.error abort) (.error abort)
  | ok {given outcomes : List LinkOutcome} (perm : given.Perm outcomes)
      (same : inOrder → given = outcomes) : Arranged inOrder (.ok given) (.ok outcomes)

private theorem Arranged.refl {inOrder : Prop} (outcome : Except Abort (List LinkOutcome)) :
    Arranged inOrder outcome outcome := by
  cases outcome with
  | error abort => exact .error abort
  | ok outcomes => exact .ok (.refl _) fun _ => rfl

/-- Whether outcomes come in the order of the links. -/
def Crawler.InOrder (crawler : Crawler τ) : Prop :=
  crawler.parallel = true → crawler.preserveOrder = true

/-- How the links of a page were dealt with between two courses, and what was given for them. -/
structure PageAccount (crawler : Crawler τ) (around : Surroundings τ) (page : Nat)
    (links : List String) (before : Course τ) (outcome : Except Abort (List LinkOutcome))
    (after : Course τ) (handled : List Handled) : Prop where
  links : handled.map Handled.link = links
  fits : ∀ one ∈ handled,
    one.Fits around (Undisturbed crawler around ∧ before.cancelled = false)
  arranged : Arranged crawler.InOrder outcome (handled.mapM (crawler.decision page))
  grows : before.fetched <+: after.fetched
  fetches : ∀ outcomes, outcome = .ok outcomes →
    Fetches around (crawler.parallel = false) before after (handled.flatMap Handled.fetches)
  running : ∀ outcomes, outcome = .ok outcomes → Undisturbed crawler around →
    before.cancelled = false → after.cancelled = false

/-- Taking links in turn keeps an account. -/
theorem Crawler.processInTurn_account (crawler : Crawler τ) (around : Surroundings τ) (page : Nat)
    (links : List String) (before : Course τ) :
    ∃ outcome after, Leads (crawler.processInTurn around page links).run before outcome after ∧
      PageAccount crawler around page links before outcome after
        (crawler.handleInTurn around links before) := by
  obtain ⟨after, leads, grows, reached⟩ := crawler.leads_processInTurn around page links before
  refine ⟨_, after, leads, ?_⟩
  constructor
  · exact crawler.handleInTurn_links around links before
  · exact crawler.handleInTurn_fits around links before
  · exact .refl _
  · exact grows
  · intro outcomes ended
    rw [reached outcomes ended]
    exact crawler.handleInTurn_fetches around links before
  · intro outcomes ended calm running
    rw [reached outcomes ended]
    exact crawler.courseInTurn_cancelled around calm links before running

/-! ## Sorted by place -/

section

variable {α : Type} (key : α → Nat)

/-- Sorting by distinct keys makes the keys increase. -/
theorem increasing_mergeSort {list : List α} (distinct : (list.map key).Nodup) :
    (list.mergeSort fun a b => key a ≤ key b).Pairwise fun a b => key a < key b := by
  have sorted : (list.mergeSort fun a b => key a ≤ key b).Pairwise fun a b => key a ≤ key b := by
    have ordered : (list.mergeSort fun a b => key a ≤ key b).Pairwise
        fun a b => decide (key a ≤ key b) = true :=
      List.pairwise_mergeSort (fun a b c => by simpa using Nat.le_trans)
        (fun a b => by simpa using Nat.le_total _ _) list
    simpa using ordered
  have distinct : (list.mergeSort fun a b => key a ≤ key b).Pairwise fun a b => key a ≠ key b := by
    rw [← List.pairwise_map (f := key)]
    exact ((List.mergeSort_perm list _).map key).nodup_iff.mpr distinct
  exact (sorted.and distinct).imp fun both => Nat.lt_of_le_of_ne both.1 both.2

/-- Two lists with the same members whose keys increase are equal. -/
theorem eq_of_increasing {first second : List α} (perm : first.Perm second)
    (increasing : first.Pairwise fun a b => key a < key b)
    (increasing' : second.Pairwise fun a b => key a < key b) : first = second :=
  perm.eq_of_pairwise (fun _ _ _ _ less more => absurd less (Nat.lt_asymm more)) increasing
    increasing'

end

/-! ## What was handed in -/

/-- The place and outcome of a link that did not break down. -/
def placedOutcome? : Nat × Except Abort LinkOutcome → Option (Nat × LinkOutcome)
  | (index, .ok outcome) => some (index, outcome)
  | (_, .error _) => none

/-- The place and breakdown of a link that broke down. -/
def placedAbort? : Nat × Except Abort LinkOutcome → Option (Nat × Abort)
  | (_, .ok _) => none
  | (index, .error abort) => some (index, abort)

private theorem placedOutcome?_less (a b : Nat × Except Abort LinkOutcome) (less : a.1 < b.1) :
    ∀ a', placedOutcome? a = some a' → ∀ b', placedOutcome? b = some b' → a'.1 < b'.1 := by
  obtain ⟨first, _ | _⟩ := a
  · exact nofun
  · obtain ⟨second, _ | _⟩ := b
    · exact nofun
    · rintro _ ⟨⟩ _ ⟨⟩
      exact less

private theorem placedAbort?_less (a b : Nat × Except Abort LinkOutcome) (less : a.1 < b.1) :
    ∀ a', placedAbort? a = some a' → ∀ b', placedAbort? b = some b' → a'.1 < b'.1 := by
  obtain ⟨first, _ | _⟩ := a
  · obtain ⟨second, _ | _⟩ := b
    · rintro _ ⟨⟩ _ ⟨⟩
      exact less
    · exact nofun
  · exact nofun

/-- Results in order give the first breakdown among them, or else all outcomes. -/
private theorem mapM_snd (results : List (Nat × Except Abort LinkOutcome)) :
    results.mapM Prod.snd = match (results.filterMap placedAbort?).head? with
      | some (_, abort) => .error abort
      | none => .ok ((results.filterMap placedOutcome?).map Prod.snd) := by
  induction results with
  | nil => rfl
  | cons result rest ih =>
    obtain ⟨index, abort | outcome⟩ := result
    · rfl
    · have found : placedOutcome? (index, .ok outcome) = some (index, outcome) := rfl
      rw [List.mapM_cons, ih, List.filterMap_cons_none (by rfl), List.filterMap_cons_some found]
      cases (rest.filterMap placedAbort?).head? with
      | none => rfl
      | some first => rfl

namespace Pool

variable {pool : Pool}

private theorem handedIn_outcomes (pool : Pool) :
    pool.handedIn.filterMap placedOutcome? = pool.outcomes := by
  simp [handedIn, List.filterMap_append, List.filterMap_map, Function.comp_def, placedOutcome?]

private theorem handedIn_aborts (pool : Pool) :
    pool.handedIn.filterMap placedAbort? = pool.aborts := by
  simp [handedIn, List.filterMap_append, List.filterMap_map, Function.comp_def, placedAbort?]

/-- Picking the first of two breakdowns by place. -/
private def earlier (first : Option (Nat × Abort)) (next : Nat × Abort) : Option (Nat × Abort) :=
  match first with
  | none => some next
  | some first => if next.1 < first.1 then some next else some first

/-- The earliest of breakdowns is one of them, and no other comes before it. -/
private theorem foldl_earlier (aborts : List (Nat × Abort)) (first : Nat × Abort) :
    ∃ least ∈ first :: aborts, aborts.foldl earlier (some first) = some least ∧
      ∀ other ∈ first :: aborts, least.1 ≤ other.1 := by
  induction aborts generalizing first with
  | nil => exact ⟨first, List.mem_cons_self, rfl, by simp⟩
  | cons next rest ih =>
    rw [List.foldl_cons, earlier]
    by_cases sooner : next.1 < first.1
    · obtain ⟨least, member, found, below⟩ := ih next
      rw [if_pos sooner]
      refine ⟨least, List.mem_cons_of_mem _ member, found, ?_⟩
      rintro other (_ | ⟨_, later⟩)
      · exact Nat.le_trans (below next List.mem_cons_self) (Nat.le_of_lt sooner)
      · exact below other later
    · obtain ⟨least, member, found, below⟩ := ih first
      rw [if_neg sooner]
      refine ⟨least, ?_, found, ?_⟩
      · rcases List.mem_cons.mp member with rfl | later
        · exact List.mem_cons_self
        · exact List.mem_cons_of_mem _ (List.mem_cons_of_mem _ later)
      · rintro other (_ | ⟨_, _ | ⟨_, later⟩⟩)
        · exact below first List.mem_cons_self
        · exact Nat.le_trans (below first List.mem_cons_self) (Nat.not_lt.mp sooner)
        · exact below other (List.mem_cons_of_mem _ later)

/-- The breakdown that a page ends with is that of the first link that has one. -/
theorem firstAbort?_eq {sorted : List (Nat × Abort)} (perm : pool.aborts.Perm sorted)
    (increasing : sorted.Pairwise fun a b => a.1 < b.1) :
    pool.firstAbort? = sorted.head?.map Prod.snd := by
  have fold : pool.firstAbort? = (pool.aborts.foldl earlier none).map Prod.snd := rfl
  rw [fold]
  cases aborts : pool.aborts with
  | nil =>
    rw [aborts] at perm
    rw [List.nil_perm.mp perm]
    rfl
  | cons one rest =>
    obtain ⟨least, member, found, below⟩ := foldl_earlier rest one
    rw [aborts] at perm
    obtain _ | ⟨head, tail⟩ := sorted
    · exact absurd (perm.mem_iff.mp member) List.not_mem_nil
    · have same : least = head := by
        rcases List.mem_cons.mp (perm.mem_iff.mp member) with same | later
        · exact same
        · have before := (List.pairwise_cons.mp increasing).1 least later
          exact absurd (below head (perm.mem_iff.mpr List.mem_cons_self)) (Nat.not_le.mpr before)
      rw [List.foldl_cons, earlier, found, same]
      rfl

/-- Outcomes put in order stand as their links do. -/
theorem ordered_eq {sorted : List (Nat × LinkOutcome)} (perm : pool.outcomes.Perm sorted)
    (increasing : sorted.Pairwise fun a b => a.1 < b.1) :
    pool.ordered true = sorted.map Prod.snd := by
  have distinct : (pool.outcomes.map Prod.fst).Nodup := by
    rw [(perm.map Prod.fst).nodup_iff, List.nodup_iff_pairwise_ne, List.pairwise_map]
    exact increasing.imp Nat.ne_of_lt
  have same := eq_of_increasing Prod.fst ((List.mergeSort_perm pool.outcomes _).trans perm)
    (increasing_mergeSort Prod.fst distinct) increasing
  rw [ordered, if_pos rfl, same]

private theorem ordered_perm {sorted : List (Nat × LinkOutcome)}
    (perm : pool.outcomes.Perm sorted) :
    (pool.ordered false).Perm (sorted.map Prod.snd) :=
  perm.map Prod.snd

/-- A ledger in the order of the links. -/
theorem Ledger.exists_sorted {crawler : Crawler τ} {around : Surroundings τ} {page : Nat}
    {links : List String} {start course : Course τ} {entries : List Entry}
    (ledger : Ledger crawler around page links start pool course entries)
    (idle : pool.waiting = [] ∧ pool.running = []) :
    ∃ sorted : List Entry, sorted.Perm entries ∧
      sorted.map (fun entry => entry.handled.link) = links ∧
      sorted.Pairwise fun a b => a.index < b.index := by
  have places := ledger.places_of_idle idle
  have increasing : (ofLinks links).waiting.Pairwise fun a b => a.1 < b.1 := by
    rw [← List.pairwise_map (f := Prod.fst), waiting_indices]
    exact List.pairwise_lt_range
  have distinct : (entries.map Entry.index).Nodup := by
    have indices := places.map Prod.fst
    rw [List.map_map, waiting_indices] at indices
    exact indices.nodup_iff.mpr List.nodup_range
  have perm := List.mergeSort_perm entries fun a b => a.index ≤ b.index
  have sorted := increasing_mergeSort Entry.index distinct
  refine ⟨_, perm, ?_, sorted⟩
  have same := eq_of_increasing Prod.fst ((perm.map Entry.place).trans places)
    (List.pairwise_map.mpr sorted) increasing
  have links' := congrArg (List.map Prod.snd) same
  rwa [List.map_map, waiting_links] at links'

/-- What a pool at its end gives for a page. -/
def given (pool : Pool) (preserveOrder : Bool) : Except Abort (List LinkOutcome) :=
  match pool.firstAbort? with
  | some abort => .error abort
  | none => .ok (pool.ordered preserveOrder)

end Pool

/-! ## Both ways of processing links -/

/-- Working on a pool keeps an account. -/
theorem Crawler.processOnPool_account (crawler : Crawler τ) (around : Surroundings τ) (page : Nat)
    {links : List String} (given : links ≠ []) (parallel : crawler.parallel = true)
    (before : Course τ) :
    ∃ outcome after handled,
      Leads (crawler.processOnPool around page links).run before outcome after ∧
      PageAccount crawler around page links before outcome after handled := by
  have free : 0 < min crawler.workers links.length :=
    Nat.lt_min.mpr ⟨crawler.workers_pos, List.length_pos_iff.mpr given⟩
  obtain ⟨pool, after, entries, leads, ledger, idle⟩ :=
    Pool.run_ledger crawler around page links before free
  obtain ⟨sorted, perm, links', increasing⟩ := ledger.exists_sorted idle
  have results : pool.handedIn.Perm (sorted.map (Entry.decided crawler page)) :=
    (ledger.decisions_of_idle idle).trans (perm.map _).symm
  have aborts := results.filterMap placedAbort?
  rw [Pool.handedIn_aborts] at aborts
  have outcomes := results.filterMap placedOutcome?
  rw [Pool.handedIn_outcomes] at outcomes
  have decided : (sorted.map Entry.handled).mapM (crawler.decision page) =
      (sorted.map (Entry.decided crawler page)).mapM Prod.snd := by
    rw [List.mapM_map, List.mapM_map]
    rfl
  have byPlace : (sorted.map (Entry.decided crawler page)).Pairwise fun a b => a.1 < b.1 :=
    List.pairwise_map.mpr increasing
  have first := Pool.firstAbort?_eq aborts (byPlace.filterMap placedAbort? placedAbort?_less)
  refine ⟨pool.given crawler.preserveOrder, after, sorted.map Entry.handled, ?_, ?_⟩
  · refine Leads.run_bind (Leads.run_lift leads) ?_
    rw [Pool.given]
    cases pool.firstAbort? with
    | some abort => exact Leads.run_throw _ _
    | none => exact Leads.run_pure _ _
  · constructor
    · rw [List.map_map]
      exact links'
    · intro handled member
      obtain ⟨entry, among, rfl⟩ := List.mem_map.mp member
      exact ledger.fits entry (perm.mem_iff.mp among)
    · rw [decided, mapM_snd, Pool.given, first]
      cases (List.filterMap placedAbort? (sorted.map (Entry.decided crawler page))).head? with
      | some abort => exact .error _
      | none =>
        refine .ok ?_ fun inOrder => ?_
        · cases crawler.preserveOrder with
          | true =>
            rw [Pool.ordered_eq outcomes (byPlace.filterMap placedOutcome? placedOutcome?_less)]
          | false => exact Pool.ordered_perm outcomes
        · rw [inOrder parallel]
          exact Pool.ordered_eq outcomes (byPlace.filterMap placedOutcome? placedOutcome?_less)
    · exact ledger.fetches.grows
    · intro _ _
      rw [List.flatMap_map]
      refine (ledger.fetches.perm ?_).weaken fun sequential => ?_
      · exact perm.symm.flatMap_right _
      · rw [parallel] at sequential
        cases sequential
    · exact fun _ _ => ledger.running

private theorem PageAccount.empty (crawler : Crawler τ) (around : Surroundings τ) (page : Nat)
    (course : Course τ) : PageAccount crawler around page [] course (.ok []) course [] where
  links := rfl
  fits := nofun
  arranged := .refl _
  grows := List.prefix_refl _
  fetches := fun _ _ => .none rfl
  running := fun _ _ _ running => running

/-- A page whose links cannot be told breaks down at once. -/
theorem Crawler.leads_crawlPage_error (crawler : Crawler τ) (around : Surroundings τ) (page : Nat)
    {html : String} {abort : Abort} (broken : crawler.keptLinks html = .error abort)
    (course : Course τ) :
    Leads (crawler.crawlPage around html page).run course (.error abort) course :=
  Leads.run_bind_error (broken ▸ crawler.leads_discoverLinks html course)

private theorem Crawler.leads_crawlPage (crawler : Crawler τ) (around : Surroundings τ) (page : Nat)
    {html : String} {links : List String} (kept : crawler.keptLinks html = .ok links)
    {before after : Course τ} {outcome : Except Abort (List LinkOutcome)}
    (process : Leads (if links.isEmpty then Pure.pure [] else if crawler.parallel
      then crawler.processOnPool around page links
      else crawler.processInTurn around page links : Crawling τ (List LinkOutcome)).run
        before outcome after) :
    Leads (crawler.crawlPage around html page).run before outcome after := by
  have discover := crawler.leads_discoverLinks html before
  rw [kept] at discover
  exact Leads.run_bind discover (Leads.run_bind (Crawling.leads_note _ _ _ _) process)

/-- Crawling a page in turn gives what becomes of its links one after another. -/
theorem Crawler.leads_crawlPage_inTurn {crawler : Crawler τ} (sequential : crawler.parallel = false)
    (around : Surroundings τ) (page : Nat) {html : String} {links : List String}
    (kept : crawler.keptLinks html = .ok links) {before : Course τ} {outcomes : List LinkOutcome}
    (decided : (crawler.handleInTurn around links before).mapM (crawler.decision page) =
      .ok outcomes) :
    Leads (crawler.crawlPage around html page).run before (.ok outcomes)
      (crawler.courseInTurn around links before) := by
  refine crawler.leads_crawlPage around page kept ?_
  by_cases none : links = []
  · subst none
    cases decided
    exact Leads.run_pure _ _
  · rw [if_neg (by simpa using none), if_neg (by simp [sequential])]
    obtain ⟨after, leads, -, reached⟩ := crawler.leads_processInTurn around page links before
    rw [decided] at leads
    rw [← reached outcomes decided]
    exact leads

/-- Crawling a page keeps an account of its links. -/
theorem Crawler.crawlPage_account (crawler : Crawler τ) (around : Surroundings τ) (page : Nat)
    {html : String} {links : List String} (kept : crawler.keptLinks html = .ok links)
    (before : Course τ) :
    ∃ outcome after handled,
      Leads (crawler.crawlPage around html page).run before outcome after ∧
      PageAccount crawler around page links before outcome after handled := by
  by_cases none : links = []
  · subst none
    exact ⟨_, _, _, crawler.leads_crawlPage around page kept (Leads.run_pure _ _),
      .empty crawler around page before⟩
  · have some : ¬links.isEmpty = true := by simpa using none
    by_cases parallel : crawler.parallel = true
    · obtain ⟨outcome, after, handled, process, account⟩ :=
        crawler.processOnPool_account around page none parallel before
      refine ⟨outcome, after, handled, crawler.leads_crawlPage around page kept ?_, account⟩
      rwa [if_neg some, if_pos parallel]
    · obtain ⟨outcome, after, process, account⟩ :=
        crawler.processInTurn_account around page links before
      refine ⟨outcome, after, _, crawler.leads_crawlPage around page kept ?_, account⟩
      rwa [if_neg some, if_neg parallel]

end PageHarvest
