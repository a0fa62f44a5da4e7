import PageHarvest.Extract.Compile
import PageHarvest.Proofs.Crawl.Steady

/-! # Workers that are cancelled

A page is cancelled at one moment of its schedule. The links that a worker has looked at before
were cleared and are fetched; all others are abandoned, whoever takes them and whenever. Each link
is handed in once, with an outcome unless its document cannot be read.
-/

namespace PageHarvest

variable {τ : Type}

namespace Job

/-- The place and link of a job whose worker has not looked for a reason to stop. -/
def unchecked? (job : Job) : Option (Nat × String) :=
  match job.stage with
  | .taken => some (job.index, job.link)
  | .cleared | .decided _ => none

end Job

namespace Entry

/-- The place and the link, if it was not fetched. -/
def abandoned? (entry : Entry) : Option (Nat × String) :=
  match entry.handled.treatment with
  | .abandoned _ => some entry.place
  | .answered _ => none

end Entry

private theorem Crawler.unreadable_of_decision {crawler : Crawler τ} {page : Nat}
    {link html : String}
    {abort : Abort}
    (decided : crawler.decision page ⟨link, .answered (.document html)⟩ = .error abort) :
    Crawling.readingOutcome (harvest crawler.spec (some link) html) = .error abort := by
  have reads : crawler.decision page ⟨link, .answered (.document html)⟩ =
      LinkOutcome.found <$> Crawling.readingOutcome (harvest crawler.spec (some link) html) := rfl
  rw [reads] at decided
  cases read : Crawling.readingOutcome (harvest crawler.spec (some link) html) with
  | error other =>
    rw [read] at decided
    cases decided
    rfl
  | ok record =>
    rw [read] at decided
    cases decided

namespace Pool

/-- The places and links for which no worker has looked for a reason to stop. -/
def unchecked (pool : Pool) : List (Nat × String) :=
  pool.waiting ++ pool.running.filterMap Job.unchecked?

section

variable {crawler : Crawler τ} {around : Surroundings τ} {page limit : Nat} {links : List String}
  {start course after : Course τ} {pool next : Pool} {entries : List Entry}

/-! ## Before and after the cancelling -/

/-- A move is a look, a fetch, a cancelling, or nothing that shows. -/
theorem Moves.course_cases {step : WorkerStep}
    (moves : Moves crawler around page limit pool course step next after) :
    after = course ∨ after = crawler.looked around course ∨
      (∃ url, after = around.asked url course) ∨
      (step = .cancel ∧ after = { course with cancelled := true }) := by
  cases moves with
  | full => exact .inl rfl
  | take => exact .inl rfl
  | stop => exact .inr (.inl rfl)
  | clear => exact .inr (.inl rfl)
  | fetch => exact .inr (.inr (.inl ⟨_, rfl⟩))
  | finish => exact .inl rfl
  | passCheck => exact .inl rfl
  | passFetch => exact .inl rfl
  | passFinish => exact .inl rfl
  | cancel => exact .inr (.inr (.inr ⟨rfl, rfl⟩))

private theorem Moves.stays_running
    (calm : Undisturbed crawler { around with steps := fun _ => [] })
    (running : course.cancelled = false) {step : WorkerStep} (other : step ≠ .cancel)
    (moves : Moves crawler around page limit pool course step next after) :
    after.cancelled = false := by
  rcases moves.course_cases with rfl | rfl | ⟨url, rfl⟩ | ⟨cancels, -⟩
  · exact running
  · exact Crawler.looked_cancelled calm running
  · exact Crawler.asked_cancelled calm url running
  · exact absurd cancels other

private theorem Moves.stays_cancelled (cancelled : course.cancelled = true) {step : WorkerStep}
    (moves : Moves crawler around page limit pool course step next after) :
    after.cancelled = true := by
  rcases moves.course_cases with rfl | rfl | ⟨url, rfl⟩ | ⟨-, rfl⟩
  · exact cancelled
  · rw [Crawler.looked, cancelled]
    rfl
  · rw [Surroundings.asked, cancelled]
    rfl
  · rfl

/-- Before the cancelling, every link that is dealt with is fetched. -/
theorem Ledger.follows_running
    (ledger : Ledger crawler around page links start pool course entries)
    (calm : Undisturbed crawler { around with steps := fun _ => [] })
    (running : course.cancelled = false) (fetched : entries.filterMap Entry.abandoned? = [])
    {schedule : List WorkerStep} (before : .cancel ∉ schedule)
    (follows : Follows crawler around page limit pool course schedule next after) :
    ∃ entries, Ledger crawler around page links start next after entries ∧
      entries.filterMap Entry.abandoned? = [] := by
  induction follows generalizing entries with
  | nil => exact ⟨entries, ledger, fetched⟩
  | @cons pool middle _ course _ _ step rest moves follows ih =>
    have other : step ≠ .cancel := fun same => before (same ▸ List.mem_cons_self)
    obtain ⟨more, ledger, deals⟩ := ledger.moves (fun _ => other) moves
    refine ih ledger (moves.stays_running calm running other) ?_ fun later =>
      before (List.mem_cons_of_mem _ later)
    rw [List.filterMap_append, fetched, List.nil_append, List.filterMap_eq_nil_iff]
    rintro ⟨index, link, reason | answer⟩ member
    · have reasoned := deals.abandoned _ member reason rfl
      have unreasoned : crawler.reasonOn around course = none :=
        Crawler.reasonOn_eq_none calm running
      rw [unreasoned] at reasoned
      cases reasoned
    · rfl

/-- After the cancelling, what was cleared is fetched, and all else is abandoned. -/
theorem Ledger.follows_cancelled
    (ledger : Ledger crawler around page links start pool course entries)
    (disturbed : ¬Undisturbed crawler around) (cancelled : course.cancelled = true)
    {schedule : List WorkerStep}
    (follows : Follows crawler around page limit pool course schedule next after) :
    ∃ more, Ledger crawler around page links start next after (entries ++ more) ∧
      (next.cleared ++ more.filterMap Entry.answered?).Perm pool.cleared ∧
      after.cancelled = true ∧
      ∀ entry ∈ more, ∀ reason, entry.handled.treatment = .abandoned reason →
        reason = .cancelled := by
  induction follows generalizing entries with
  | nil => exact ⟨[], by rwa [List.append_nil], .of_eq (List.append_nil _), cancelled, nofun⟩
  | @cons pool middle last course _ _ _ _ moves follows ih =>
    have reasoned : crawler.reasonOn around course = some .cancelled := by
      rw [Crawler.reasonOn, cancelled]
      rfl
    obtain ⟨first, ledger, deals⟩ := ledger.moves (fun calm => absurd calm disturbed) moves
    obtain ⟨rest, ledger, cleared, stays, abandoned⟩ := ih ledger (moves.stays_cancelled cancelled)
    refine ⟨first ++ rest, by rwa [← List.append_assoc], ?_, stays, ?_⟩
    · have here := deals.cleared (by rw [reasoned]; exact Option.some_ne_none _)
      rw [List.filterMap_append]
      refine (List.perm_append_comm.append_left _).trans ?_
      rw [← List.append_assoc]
      exact (cleared.append_right _).trans here
    · intro entry member reason treated
      rcases List.mem_append.mp member with sooner | later
      · have same := deals.abandoned entry sooner reason treated
        rw [reasoned] at same
        exact (Option.some.inj same).symm
      · exact abandoned entry later reason treated

/-! ## Adding up -/

private theorem open_perm (jobs : List Job) :
    (jobs.filterMap Job.open?).Perm
      (jobs.filterMap Job.unchecked? ++ jobs.filterMap Job.cleared?) := by
  induction jobs with
  | nil => exact .refl _
  | cons job rest ih =>
    obtain ⟨index, link, _ | _ | decision⟩ := job
    · exact ih.cons (index, link)
    · exact (ih.cons (index, link)).trans List.perm_middle.symm
    · exact ih

private theorem place_perm (entries : List Entry) :
    (entries.map Entry.place).Perm
      (entries.filterMap Entry.answered? ++ entries.filterMap Entry.abandoned?) := by
  induction entries with
  | nil => exact .refl _
  | cons entry rest ih =>
    obtain ⟨index, link, reason | answer⟩ := entry
    · exact (ih.cons (index, link)).trans List.perm_middle.symm
    · exact ih.cons (index, link)

/-- If what was cleared is what is fetched later, then what was unchecked is what is abandoned. -/
theorem Ledger.unchecked_perm {last : Pool} {done : Course τ} {more : List Entry}
    (ledger : Ledger crawler around page links start pool course entries)
    (ended : Ledger crawler around page links start last done (entries ++ more))
    (idle : last.waiting = [] ∧ last.running = [])
    (cleared : (more.filterMap Entry.answered?).Perm pool.cleared) :
    pool.unchecked.Perm (more.filterMap Entry.abandoned?) := by
  rw [List.perm_iff_count]
  intro place
  have before := ledger.places.count_eq place
  have after := ended.places.count_eq place
  have opened := (open_perm pool.running).count_eq place
  have dealt := (place_perm more).count_eq place
  have fetched := cleared.count_eq place
  rw [idle.1, idle.2] at after
  simp only [List.filterMap_nil, List.map_append, List.count_append, List.count_nil, Pool.cleared,
    unchecked] at *
  omega

/-! ## What was handed in -/

private theorem mem_handedIn_ok {index : Nat} {outcome : LinkOutcome} :
    (index, .ok outcome) ∈ pool.handedIn ↔ (index, outcome) ∈ pool.outcomes := by
  simp [handedIn]

private theorem mem_handedIn_error {index : Nat} {abort : Abort} :
    (index, .error abort) ∈ pool.handedIn ↔ (index, abort) ∈ pool.aborts := by
  simp [handedIn]

private theorem mem_waiting {index : Nat} {link : String} :
    (index, link) ∈ (ofLinks links).waiting ↔ links[index]? = some link := by
  simp [ofLinks, List.mk_mem_zipIdx_iff_getElem?]

/-- Outcomes put in order stand at the places of their links. -/
theorem ordered_getElem? {count : Nat}
    (complete : (pool.outcomes.map Prod.fst).Perm (List.range count)) :
    (pool.ordered true).length = count ∧
      ∀ index outcome, (index, outcome) ∈ pool.outcomes →
        (pool.ordered true)[index]? = some outcome := by
  have perm := List.mergeSort_perm pool.outcomes fun a b => decide (a.1 ≤ b.1)
  have increasing := increasing_mergeSort Prod.fst (complete.nodup_iff.mpr List.nodup_range)
  have places : (pool.outcomes.mergeSort fun a b => decide (a.1 ≤ b.1)).map Prod.fst =
      List.range count :=
    eq_of_increasing id ((perm.map Prod.fst).trans complete) (List.pairwise_map.mpr increasing)
      List.pairwise_lt_range
  rw [ordered, if_pos rfl]
  constructor
  · rw [List.length_map, ← List.length_map (f := Prod.fst), places, List.length_range]
  · intro index outcome member
    obtain ⟨place, found⟩ := List.mem_iff_getElem?.mp (perm.mem_iff.mpr member)
    have numbered : (List.range count)[place]? = some index := by
      rw [← places, List.getElem?_map, found]
      rfl
    obtain ⟨_, same⟩ := List.getElem?_eq_some_iff.mp numbered
    obtain rfl : place = index := by rwa [List.getElem_range] at same
    rw [List.getElem?_map, found]
    rfl

section

variable (ledger : Ledger crawler around page links start pool course entries)
  (idle : pool.waiting = [] ∧ pool.running = [])

include ledger idle

/-- A pool at its end has handed in each link once. -/
theorem Ledger.handedIn_once :
    (pool.outcomes.map Prod.fst ++ pool.aborts.map Prod.fst).Perm (List.range links.length) := by
  have handedIn : pool.handedIn.map Prod.fst =
      pool.outcomes.map Prod.fst ++ pool.aborts.map Prod.fst := by
    simp [Pool.handedIn, Function.comp_def]
  have indices := (ledger.places_of_idle idle).map Prod.fst
  rw [List.map_map, waiting_indices] at indices
  rw [← handedIn]
  refine ((ledger.decisions_of_idle idle).map Prod.fst).trans ?_
  rw [List.map_map]
  exact indices

/-- If no answer crashes, a worker breaks down only over a document that it cannot read. -/
theorem Ledger.unreadable_of_abort
    (answers : ∀ url earlier crash, around.answer url earlier ≠ .crashed crash) {index : Nat}
    {abort : Abort} (member : (index, abort) ∈ pool.aborts) :
    ∃ link html earlier, links[index]? = some link ∧ around.answer link earlier = .document html ∧
      Crawling.readingOutcome (harvest crawler.spec (some link) html) = .error abort := by
  have handed := (ledger.decisions_of_idle idle).mem_iff.mp (mem_handedIn_error.mpr member)
  obtain ⟨⟨place, link, treatment⟩, among, same⟩ := List.mem_map.mp handed
  obtain ⟨rfl, decided⟩ := Prod.mk.inj same
  have placed : links[place]? = some link :=
    mem_waiting.mp ((ledger.places_of_idle idle).mem_iff.mp (List.mem_map_of_mem among))
  cases treatment with
  | abandoned reason => cases decided
  | answered answer =>
    obtain ⟨earlier, given⟩ := ledger.fits _ among
    cases answer with
    | document html =>
      exact ⟨link, html, earlier, placed, given.symm, Crawler.unreadable_of_decision decided⟩
    | failed failure => cases decided
    | crashed crash => exact absurd given.symm (answers link earlier crash)

end

private theorem fetches_fst (entries : List Entry) :
    (entries.flatMap (·.handled.fetches)).map Prod.fst =
      (entries.filterMap Entry.answered?).map Prod.snd := by
  induction entries with
  | nil => rfl
  | cons entry rest ih =>
    obtain ⟨index, link, reason | answer⟩ := entry
    · exact ih
    · exact congrArg (link :: ·) ih

end

variable (crawler : Crawler τ) (around : Surroundings τ) (page : Nat)

/-- What became of the links of a page, some of which came too late as it was cancelled: what was
handed in, and which URLs were fetched. -/
structure Joined (links : List String) (late : List (Nat × String)) (pool : Pool)
    (urls : List String) : Prop where
  once : (pool.outcomes.map Prod.fst ++ pool.aborts.map Prod.fst).Perm (List.range links.length)
  aborts : ∀ index abort, (index, abort) ∈ pool.aborts →
    ∃ link html earlier, links[index]? = some link ∧ around.answer link earlier = .document html ∧
      Crawling.readingOutcome (harvest crawler.spec (some link) html) = .error abort
  abandoned : ∀ index link, (index, link) ∈ late →
    (index, .failed ⟨link, "cancelled", page⟩) ∈ pool.outcomes
  answered : ∀ index link, links[index]? = some link → (index, link) ∉ late →
    ∃ earlier, (index, crawler.decision page ⟨link, .answered (around.answer link earlier)⟩) ∈
      pool.handedIn
  fetched : (urls ++ late.map Prod.snd).Perm links

end Pool

/-- The workers of a page are cancelled after some steps, and nothing else keeps them from their
work. -/
structure CancelledAfter (crawler : Crawler τ) (around : Surroundings τ) (page : Nat)
    (before : List WorkerStep) : Prop where
  deadline : crawler.deadline = none
  cancels : ∀ url earlier, around.cancels url earlier = false
  interrupts : ∀ looks, around.interrupts looks = false
  answers : ∀ url earlier crash, around.answer url earlier ≠ .crashed crash
  first : .cancel ∉ before
  steps : ∃ after, around.steps page = before ++ .cancel :: after

namespace CancelledAfter

variable {crawler : Crawler τ} {around : Surroundings τ} {page limit : Nat}
  {before : List WorkerStep} (once : CancelledAfter crawler around page before)

include once

/-- Without its schedule, the crawl is one that nothing stops. -/
theorem calm : Undisturbed crawler { around with steps := fun _ => [] } :=
  ⟨once.deadline, once.cancels, once.interrupts, fun _ => nofun⟩

private theorem disturbed : ¬Undisturbed crawler around := by
  obtain ⟨after, steps⟩ := once.steps
  intro calm
  apply calm.steps page
  rw [steps]
  simp

open Pool

/-- A pool that is cancelled and joined keeps a ledger of what was fetched before and what was
fetched or abandoned after. -/
theorem exists_ledger (links : List String) (free : 0 < limit) {start : Course τ}
    (running : start.cancelled = false) :
    ∃ middle atCancel last done fetched more,
      Leads ((ofLinks links).steps crawler around page limit before) start middle atCancel ∧
      Leads ((ofLinks links).run crawler around page limit (around.steps page)) start last done ∧
      Ledger crawler around page links start middle { atCancel with cancelled := true } fetched ∧
      Ledger crawler around page links start last done (fetched ++ more) ∧
      (last.waiting = [] ∧ last.running = []) ∧
      fetched.filterMap Entry.abandoned? = [] ∧
      (more.filterMap Entry.answered?).Perm middle.cleared ∧
      ∀ entry ∈ more, ∀ reason, entry.handled.treatment = .abandoned reason →
        reason = .cancelled := by
  obtain ⟨after, steps⟩ := once.steps
  obtain ⟨middle, atCancel, leads, follows⟩ :=
    steps_follows crawler around page limit (ofLinks links) start before
  obtain ⟨fetched, ledger, none⟩ :=
    (ledger_start links start).follows_running once.calm running rfl once.first follows
  have cancelled : Ledger crawler around page links start middle
      { atCancel with cancelled := true } fetched := ledger.cancel once.disturbed
  obtain ⟨drained, atDrain, goesOn, follows⟩ :=
    steps_follows crawler around page limit middle { atCancel with cancelled := true } after
  obtain ⟨last, done, ends, drains⟩ :=
    steps_follows crawler around page limit drained atDrain drained.draining
  obtain ⟨more, ended, cleared, -, abandoned⟩ :=
    cancelled.follows_cancelled once.disturbed rfl (follows.append drains)
  have idle := drains.draining free
  refine ⟨middle, atCancel, last, done, fetched, more, leads, ?_, cancelled, ended, idle, none, ?_,
    abandoned⟩
  · have cancel : Leads (middle.step crawler around page limit .cancel) atCancel middle
        { atCancel with cancelled := true } := fun journal => ⟨journal, rfl⟩
    refine Leads.bind ?_ ends
    rw [steps, steps_append]
    exact leads.bind (cancel.bind goesOn)
  · rwa [Pool.cleared, idle.2, List.filterMap_nil, List.nil_append] at cleared

/-- The pool is cancelled at some course, and what it does up to there and after it is joined. -/
private theorem exists_joined (links : List String) (free : 0 < limit) {start : Course τ}
    (running : start.cancelled = false) :
    ∃ middle atCancel last done urls,
      Leads ((ofLinks links).steps crawler around page limit before) start middle atCancel ∧
      Leads ((ofLinks links).run crawler around page limit (around.steps page)) start last done ∧
      done.fetched = start.fetched ++ urls ∧
      Joined crawler around page links middle.unchecked last urls := by
  obtain ⟨middle, atCancel, last, done, fetched, more, leads, runs, ledger, ended, idle, none,
    cleared, abandoned⟩ := once.exists_ledger links free running
  obtain ⟨urls, reached, answers, -⟩ := ended.fetches
  have late := ledger.unchecked_perm ended idle cleared
  have places := ended.places_of_idle idle
  have decisions := ended.decisions_of_idle idle
  have handed (entry : Entry) (member : entry ∈ fetched ++ more) :
      entry.decided crawler page ∈ last.handedIn :=
    decisions.mem_iff.mpr (List.mem_map_of_mem member)
  refine ⟨middle, atCancel, last, done, urls, leads, runs, reached, ?_⟩
  constructor
  · exact ended.handedIn_once idle
  · exact fun index abort => ended.unreadable_of_abort idle once.answers
  · intro index link member
    obtain ⟨⟨place, link', reason | answer⟩, among, same⟩ :=
      List.mem_filterMap.mp (late.mem_iff.mp member)
    · obtain ⟨rfl, rfl⟩ := Prod.mk.inj (Option.some.inj same)
      obtain rfl := abandoned _ among reason rfl
      exact mem_handedIn_ok.mp (handed _ (List.mem_append_right _ among))
    · cases same
  · intro index link placed inTime
    obtain ⟨⟨place, link', treatment⟩, among, same⟩ :=
      List.mem_map.mp (places.mem_iff.mpr (mem_waiting.mpr placed))
    obtain ⟨rfl, rfl⟩ := Prod.mk.inj same
    cases treatment with
    | answered answer =>
      obtain ⟨earlier, given⟩ := ended.fits _ among
      refine ⟨earlier, ?_⟩
      rw [← given]
      exact handed _ among
    | abandoned reason =>
      refine absurd (late.mem_iff.mpr ?_) inTime
      rcases List.mem_append.mp among with sooner | later
      · have left : (place, link') ∈ fetched.filterMap Entry.abandoned? :=
          List.mem_filterMap.mpr ⟨_, sooner, rfl⟩
        rw [none] at left
        cases left
      · exact List.mem_filterMap.mpr ⟨_, later, rfl⟩
  · have listed := answers.map Prod.fst
    rw [around.answers_fst, fetches_fst] at listed
    have dealt := (place_perm (fetched ++ more)).symm.trans places
    rw [List.filterMap_append (f := Entry.abandoned?), none, List.nil_append] at dealt
    have all := dealt.map Prod.snd
    rw [List.map_append, waiting_links] at all
    exact (listed.append (late.map Prod.snd)).trans all

end CancelledAfter

namespace Crawler

open Pool

/-- Workers that are cancelled once: at no moment are there more links in flight than there may be
workers; every link is handed in once, those that were unchecked at the cancelling as cancelled and
the others, which alone are fetched, with what their answers give. If the documents can be read,
each link has an outcome, in the order of the links if that is kept. -/
theorem processOnPool_cancelled {crawler : Crawler τ} {around : Surroundings τ} {page : Nat}
    {before : List WorkerStep} (once : CancelledAfter crawler around page before)
    {links : List String} (given : links ≠ []) {activity : Activity τ}
    (running : activity.cancelled = false) :
    let limit := min crawler.workers links.length
    let atCancel := ((ofLinks links).steps crawler around page limit before).run activity
    let joined := ((ofLinks links).run crawler around page limit (around.steps page)).run activity
    (∃ rest, joined = ((ofLinks links).steps crawler around page limit
      (around.steps page ++ rest)).run activity) ∧
    (∀ steps,
      (((ofLinks links).steps crawler around page limit steps).run activity).1.running.length
        ≤ limit) ∧
    (∃ urls, joined.2.fetched = activity.fetched ++ urls ∧
      Joined crawler around page links atCancel.1.unchecked joined.1 urls) ∧
    ((∀ link ∈ links, ∀ earlier html, around.answer link earlier = .document html →
        ∃ record, (harvest crawler.spec (some link) html).outcome.1 = .ok record) →
      (joined.1.outcomes.map Prod.fst).Perm (List.range links.length) ∧
      (crawler.preserveOrder = true → ∃ ordered,
        (Crawling.runOn (crawler.processOnPool around page links) activity).1 = .ok ordered ∧
        ordered.length = links.length ∧
        ∀ index outcome, (index, outcome) ∈ joined.1.outcomes →
          ordered[index]? = some outcome)) := by
  intro limit atCancel joined
  have free : 0 < limit :=
    Nat.lt_min.mpr ⟨crawler.workers_pos, List.length_pos_iff.mpr given⟩
  obtain ⟨middle, course, last, done, urls, begins, runs, fetched, ends⟩ :=
    once.exists_joined links free running
  have atCancel_eq : atCancel.1 = middle := begins.run_fst
  have joined_eq : joined.1 = last := runs.run_fst
  have fetched_eq : joined.2.fetched = done.fetched := congrArg Course.fetched runs.run_snd
  refine ⟨exists_run_eq_steps crawler around page limit _ (around.steps page) activity, ?_⟩
  rw [atCancel_eq, joined_eq, fetched_eq]
  refine ⟨fun steps => steps_running_le crawler around page limit links steps activity,
    ⟨urls, fetched, ends⟩, fun readable => ?_⟩
  have sound : last.aborts = [] := by
    refine List.eq_nil_iff_forall_not_mem.mpr fun ⟨index, abort⟩ member => ?_
    obtain ⟨link, html, earlier, placed, answered, broken⟩ := ends.aborts index abort member
    obtain ⟨record, harvested⟩ :=
      readable link (List.mem_of_getElem? placed) earlier html answered
    cases broken.symm.trans (Crawling.readingOutcome_eq_ok.mpr harvested)
  have complete : (last.outcomes.map Prod.fst).Perm (List.range links.length) := by
    have once := ends.once
    rwa [sound, List.map_nil, List.append_nil] at once
  refine ⟨complete, fun inOrder => ?_⟩
  obtain ⟨length, places⟩ := ordered_getElem? complete
  have gives : Leads (crawler.processOnPool around page links).run activity.toCourse
      (.ok (last.ordered true)) done := by
    refine Leads.run_bind (Leads.run_lift runs) ?_
    rw [firstAbort?, sound, inOrder]
    exact Leads.run_pure _ _
  exact ⟨last.ordered true, gives.run_fst, length, places⟩

end Crawler

/-! ## A page with two links -/

namespace Sample

/-- The small site, whose workers are cancelled once the first has looked and the second has not. -/
def cancelledAround : Surroundings Nat :=
  { around with
    steps := fun _ => [.take, .take, .check 0, .cancel, .check 1, .fetch 1, .finish 1, .fetch 0] }

/-- The crawler of the small site that asks every document for a pseudo-element. -/
def pseudoCrawler : Crawler Nat :=
  { crawler with
    spec := (SearchSpec.compile [] (.ofList [("a", "SELECTOR: p::before, LOC: TEXT")])).1 }

private theorem cancelledAfter (crawler : Crawler Nat) (deadline : crawler.deadline = none) :
    CancelledAfter crawler cancelledAround 0 [.take, .take, .check 0] where
  deadline := deadline
  cancels _ _ := rfl
  interrupts _ := rfl
  answers url _ := site_ne_crashed url
  first := by decide
  steps := ⟨_, rfl⟩

end Sample

namespace Crawler

open Pool

/-- The first link is fetched and the second is cancelled. -/
theorem processOnPool_cancelled_between :
    let links := ["u", "v"]
    let joined := ((ofLinks links).run Sample.crawler Sample.cancelledAround 0 2
      (Sample.cancelledAround.steps 0)).run { startedAt := 0 }
    CancelledAfter Sample.crawler Sample.cancelledAround 0 [.take, .take, .check 0] ∧
      (1, .failed ⟨"v", "cancelled", 0⟩) ∈ joined.1.outcomes ∧
      (joined.1.outcomes.map Prod.fst).Perm (List.range links.length) := by
  intro links joined
  have once := Sample.cancelledAfter Sample.crawler rfl
  have given : links ≠ [] := List.cons_ne_nil _ _
  have fresh : ({ startedAt := 0 } : Activity Nat).cancelled = false := rfl
  obtain ⟨-, -, ⟨urls, -, ends⟩, whole⟩ := processOnPool_cancelled once given fresh
  have late : (1, "v") ∈ (((ofLinks links).steps Sample.crawler Sample.cancelledAround 0 2
      [.take, .take, .check 0]).run ({ startedAt := 0 } : Activity Nat)).1.unchecked := by
    decide +kernel
  refine ⟨once, ends.abandoned 1 "v" late, (whole ?_).1⟩
  have document : Sample.site "u" = .document "<p>x</p>" := by decide +kernel
  have nothing : Sample.site "v" = .failed ⟨"v", "gone", none⟩ := by decide +kernel
  intro link member earlier html answered
  rcases List.mem_pair.mp member with rfl | rfl
  · obtain rfl := Fetched.document.inj (document.symm.trans answered)
    exact ⟨{ url := some "u" }, by decide +kernel⟩
  · cases nothing.symm.trans answered

/-- A document that is asked for a pseudo-element leaves its link without an outcome. -/
theorem processOnPool_pseudoElement :
    let links := ["u", "v"]
    let joined := ((ofLinks links).run Sample.pseudoCrawler Sample.cancelledAround 0 2
      (Sample.cancelledAround.steps 0)).run { startedAt := 0 }
    CancelledAfter Sample.pseudoCrawler Sample.cancelledAround 0 [.take, .take, .check 0] ∧
      joined.1.outcomes.map Prod.fst = [1] ∧
      ¬(joined.1.outcomes.map Prod.fst).Perm (List.range links.length) := by
  intro links joined
  have left : joined.1.outcomes.map Prod.fst = [1] := by decide +kernel
  refine ⟨Sample.cancelledAfter Sample.pseudoCrawler rfl, left, ?_⟩
  rw [left]
  decide

end Crawler

end PageHarvest
