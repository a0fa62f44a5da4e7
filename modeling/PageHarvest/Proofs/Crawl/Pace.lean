import PageHarvest.Proofs.Crawl.Visit
import PageHarvest.Proofs.Traverse

/-! # Stopping within a page

A crawl that takes links in turn looks for a reason to stop before each fetch. While it sees none
it fetches what the same crawl without deadline or cancelling fetches; once it sees one, and time
does not run backwards, it sees one at every later look, so the rest of the page is abandoned.
-/

namespace PageHarvest

variable {τ : Type}

namespace Crawler

/-- The same crawler without a deadline. -/
def withoutDeadline (crawler : Crawler τ) : Crawler τ := { crawler with deadline := none }

end Crawler

namespace Surroundings

/-- The same surroundings in which nobody cancels the crawl. -/
def uncancelled (around : Surroundings τ) : Surroundings τ :=
  { around with cancels := fun _ _ => false, interrupts := fun _ => false, steps := fun _ => [] }

/-- Time that does not run backwards: later readings are not less, and a limit that is exceeded
stays exceeded. -/
structure Advances [LE τ] (around : Surroundings τ) : Prop where
  reading : ∀ {earlier later}, earlier ≤ later → around.reading earlier ≤ around.reading later
  exceeds : ∀ {start now later limit}, now ≤ later → around.exceeds start now limit = true →
    around.exceeds start later limit = true

end Surroundings

/-- A site that answers with documents and failures only, where every document can be read. -/
structure Readable (crawler : Crawler τ) (around : Surroundings τ) : Prop where
  uncrashed : ∀ url earlier crash, around.answer url earlier ≠ .crashed crash
  harvested : ∀ url earlier html, around.answer url earlier = .document html →
    ∃ record, (harvest crawler.spec (some url) html).outcome.1 = .ok record

namespace Crawler

variable (crawler : Crawler τ) (around : Surroundings τ)

/-- Nothing stops a crawl without a deadline that nobody cancels. -/
theorem undisturbed : Undisturbed crawler.withoutDeadline around.uncancelled where
  deadline := rfl
  cancels := fun _ _ => rfl
  interrupts := fun _ => rfl
  steps := fun _ => List.not_mem_nil

/-- Whether a look on a course sees a reason to stop. -/
def Stopping (course : Course τ) : Prop := ∃ reason, crawler.reasonOn around course = some reason

/-- The course after fetching URLs one after another, with a look before each of them. -/
def paced (course : Course τ) (urls : List String) : Course τ :=
  urls.foldl (fun course url => around.asked url (crawler.looked around course)) course

/-- URLs fetched one after another, where no look before any of them sees a reason to stop. -/
inductive Paces : Course τ → List String → Course τ → Prop
  | nil (course : Course τ) : Paces course [] course
  | cons {course after : Course τ} {url : String} {urls : List String}
    (running : crawler.reasonOn around course = none)
    (rest : Paces (around.asked url (crawler.looked around course)) urls after) :
    Paces course (url :: urls) after

section

variable {crawler around} {course middle after : Course τ} {urls more : List String}

theorem Paces.append (one : crawler.Paces around course urls middle)
    (other : crawler.Paces around middle more after) :
    crawler.Paces around course (urls ++ more) after := by
  induction one with
  | nil => exact other
  | cons running _ ih => exact .cons running (ih other)

theorem Paces.fetched (paces : crawler.Paces around course urls after) :
    after.fetched = course.fetched ++ urls := by
  induction paces with
  | nil => exact (List.append_nil _).symm
  | cons _ _ ih => rw [ih, Surroundings.asked, looked_fetched, List.append_assoc]; rfl

/-- Where anything was fetched, the first look saw no reason to stop. -/
theorem Paces.unseen_first (paces : crawler.Paces around course urls after)
    (fetches : after.fetched ≠ course.fetched) : crawler.reasonOn around course = none := by
  cases paces with
  | nil => exact absurd rfl fetches
  | cons unseen _ => exact unseen

/-- No look along the way saw a reason to stop. -/
theorem Paces.unseen (paces : crawler.Paces around course urls after)
    {done rest : List String} {url : String} (split : urls = done ++ url :: rest) :
    crawler.reasonOn around (crawler.paced around course done) = none := by
  induction paces generalizing done with
  | nil => simp at split
  | cons running _ ih =>
    cases done with
    | nil => exact running
    | cons first done =>
      obtain ⟨rfl, rest⟩ := List.cons.inj split
      exact ih rest

private theorem Stopping.handledOn (stopping : crawler.Stopping around course) (link : String) :
    crawler.handledOn around link course = crawler.looked around course := by
  obtain ⟨reason, reasoned⟩ := stopping
  rw [Crawler.handledOn, reasoned]

variable [LE τ]

/-- A reason to stop does not go away. -/
theorem Stopping.looked (advances : around.Advances) (stopping : crawler.Stopping around course) :
    crawler.Stopping around (crawler.looked around course) := by
  cases cancelled : course.cancelled || around.interrupts course.looks with
  | true =>
    refine ⟨.cancelled, ?_⟩
    simp [reasonOn, Crawler.looked, cancelled]
  | false =>
    obtain ⟨reason, reasoned⟩ := stopping
    rw [reasonOn, cancelled] at reasoned
    cases deadline : crawler.deadline with
    | none => simp [deadline] at reasoned
    | some limit =>
      have exceeded : around.exceeds course.startedAt (around.reading course.readings) limit =
          true := by
        by_contra within
        simp [deadline, within] at reasoned
      have still := advances.exceeds (advances.reading (Nat.le_succ course.readings)) exceeded
      rw [Stopping, reasonOn, Crawler.looked, cancelled]
      simp only [deadline]
      cases around.interrupts (course.looks + 1) with
      | true => exact ⟨.cancelled, rfl⟩
      | false => exact ⟨.deadline, by simp [still]⟩

/-- The rest of a page is abandoned link by link. -/
theorem Stopping.handleInTurn (advances : around.Advances)
    (stopping : crawler.Stopping around course) (links : List String) :
    List.Forall₂ (fun link handled => ∃ reason, handled = ⟨link, .abandoned reason⟩) links
        (crawler.handleInTurn around links course) ∧
      (crawler.courseInTurn around links course).fetched = course.fetched ∧
      crawler.Stopping around (crawler.courseInTurn around links course) := by
  induction links generalizing course with
  | nil => exact ⟨.nil, rfl, stopping⟩
  | cons link rest ih =>
    obtain ⟨abandoned, still, stopping'⟩ := ih (stopping.looked advances)
    rw [Crawler.handleInTurn, courseInTurn, List.foldl_cons, stopping.handledOn link]
    refine ⟨.cons ?_ abandoned, still, stopping'⟩
    obtain ⟨reason, reasoned⟩ := stopping
    exact ⟨reason, by rw [handle, reasoned]⟩

end

/-! ## The links of a page -/

private theorem handleInTurn_append (first second : List String) (course : Course τ) :
    crawler.handleInTurn around (first ++ second) course =
      crawler.handleInTurn around first course ++
        crawler.handleInTurn around second (crawler.courseInTurn around first course) := by
  induction first generalizing course with
  | nil => rfl
  | cons link rest ih => rw [List.cons_append, handleInTurn, handleInTurn, ih]; rfl

private theorem courseInTurn_append (first second : List String) (course : Course τ) :
    crawler.courseInTurn around (first ++ second) course =
      crawler.courseInTurn around second (crawler.courseInTurn around first course) :=
  List.foldl_append

/-- Links are fetched up to a first look that sees a reason to stop. -/
theorem exists_paces (links : List String) (course : Course τ) :
    ∃ done rest middle, links = done ++ rest ∧ crawler.Paces around course done middle ∧
      (rest = [] ∨ crawler.Stopping around middle) := by
  induction links generalizing course with
  | nil => exact ⟨[], [], course, rfl, .nil course, .inl rfl⟩
  | cons link rest ih =>
    cases reasoned : crawler.reasonOn around course with
    | some reason => exact ⟨[], link :: rest, course, rfl, .nil course, .inr ⟨reason, reasoned⟩⟩
    | none =>
      obtain ⟨done, left, middle, split, paces, stops⟩ :=
        ih (around.asked link (crawler.looked around course))
      exact ⟨link :: done, left, middle, by rw [split]; rfl, .cons reasoned paces, stops⟩

section

variable {crawler around} {course middle : Course τ} {urls : List String}

/-- Links that are fetched one after another are handled as in a crawl that nothing stops. -/
theorem Paces.handleInTurn (paces : crawler.Paces around course urls middle) {free : Course τ}
    (same : free.fetched = course.fetched) (running : free.cancelled = false) :
    crawler.handleInTurn around urls course =
        crawler.withoutDeadline.handleInTurn around.uncancelled urls free ∧
      crawler.courseInTurn around urls course = middle ∧
      (crawler.withoutDeadline.courseInTurn around.uncancelled urls free).fetched =
        middle.fetched := by
  induction paces generalizing free with
  | nil => exact ⟨rfl, rfl, same⟩
  | @cons course after url urls unseen rest ih =>
    have calm := crawler.undisturbed around
    have freely : crawler.withoutDeadline.handledOn around.uncancelled url free =
        around.uncancelled.asked url (crawler.withoutDeadline.looked around.uncancelled free) := by
      rw [handledOn, reasonOn_eq_none calm running]
    have here : crawler.handledOn around url course =
        around.asked url (crawler.looked around course) := by
      rw [handledOn, unseen]
    have first : crawler.handle around url course =
        crawler.withoutDeadline.handle around.uncancelled url free := by
      rw [handle, handle, unseen, reasonOn_eq_none calm running, Surroundings.answerOn,
        Surroundings.answerOn, same]
      rfl
    have same' : (crawler.withoutDeadline.handledOn around.uncancelled url free).fetched =
        (around.asked url (crawler.looked around course)).fetched := by
      rw [freely, Surroundings.asked, Surroundings.asked, looked_fetched, looked_fetched, same]
    obtain ⟨handled, reached, fetched⟩ := ih same' (handledOn_cancelled calm url running)
    rw [Crawler.handleInTurn, Crawler.handleInTurn, here, first, handled]
    refine ⟨rfl, ?_, fetched⟩
    rw [courseInTurn, List.foldl_cons, here]
    exact reached

/-- Where every document is readable, a link that fits its surroundings is decided on. -/
theorem exists_decision (readable : Readable crawler around) (page : Nat) {calm : Prop}
    {handled : Handled} (fits : handled.Fits around calm) :
    ∃ outcome, crawler.decision page handled = .ok outcome := by
  obtain ⟨link, reason | html | failure | crash⟩ := handled
  · exact ⟨_, rfl⟩
  · obtain ⟨earlier, answered⟩ := fits
    obtain ⟨record, harvested⟩ := readable.harvested link earlier html answered.symm
    refine ⟨.found record, ?_⟩
    simp only [decision, Crawling.readingOutcome_eq_ok.mpr harvested]
    rfl
  · exact ⟨_, rfl⟩
  · obtain ⟨earlier, answered⟩ := fits
    exact absurd answered.symm (readable.uncrashed link earlier crash)

/-- Taking links in turn gives an outcome for each of them. -/
theorem exists_outcomes (readable : Readable crawler around) (page : Nat) (links : List String)
    (course : Course τ) :
    ∃ outcomes, (crawler.handleInTurn around links course).mapM (crawler.decision page) =
      .ok outcomes :=
  exists_mapM_eq_ok fun one member => exists_decision readable page
    (crawler.handleInTurn_fits around links course one member)

private theorem abandoned_outcomes (crawler : Crawler τ) (page : Nat) {links : List String}
    {handled : List Handled}
    (left : List.Forall₂ (fun link handled => ∃ reason, handled = ⟨link, .abandoned reason⟩) links
      handled) :
    ∃ outcomes, handled.mapM (crawler.decision page) = .ok outcomes ∧
      List.Forall₂ (fun link outcome => ∃ reason, outcome = abandoned link page reason) links
        outcomes := by
  induction left with
  | nil => exact ⟨[], rfl, .nil⟩
  | cons first _ ih =>
    obtain ⟨reason, rfl⟩ := first
    obtain ⟨outcomes, decided, abandoned⟩ := ih
    exact ⟨_ :: outcomes, by rw [List.mapM_cons, decided]; rfl, .cons ⟨reason, rfl⟩ abandoned⟩

end

/-- The links of a page in a crawl that may be stopped beside those in one that is not: all were
fetched in both, or only the first ones in the first, where the rest is abandoned. -/
inductive CutPage (page : Nat) (links : List String) (before : Course τ) :
    List LinkOutcome → Course τ → List LinkOutcome → Course τ → Prop
  | whole {outcomes : List LinkOutcome} {after free : Course τ}
    (paces : crawler.Paces around before links after) (same : free.fetched = after.fetched) :
    CutPage page links before outcomes after outcomes free
  | short {done rest : List String} {settled missing abandoned : List LinkOutcome}
    {middle after free : Course τ} (split : links = done ++ rest)
    (paces : crawler.Paces around before done middle) (still : after.fetched = middle.fetched)
    (stopping : crawler.Stopping around after) (goesOn : middle.fetched <+: free.fetched)
    (left : List.Forall₂
      (fun link outcome => ∃ reason, outcome = Crawler.abandoned link page reason)
      rest abandoned) :
    CutPage page links before (settled ++ abandoned) after (settled ++ missing) free

/-- What crawling a page gives in a crawl that may be stopped and in one that is not. -/
theorem crawlPage_cut [LE τ] {crawler : Crawler τ} {around : Surroundings τ}
    (sequential : crawler.parallel = false) (advances : around.Advances)
    (readable : Readable crawler around) (page : Nat) {html : String} {links : List String}
    (kept : crawler.keptLinks html = .ok links) {before free : Course τ}
    (same : free.fetched = before.fetched) (running : free.cancelled = false) :
    ∃ outcomes after outcomes' after',
      Leads (crawler.crawlPage around html page).run before (.ok outcomes) after ∧
      Leads (crawler.withoutDeadline.crawlPage around.uncancelled html page).run free
        (.ok outcomes') after' ∧
      after'.cancelled = false ∧
      crawler.CutPage around page links before outcomes after outcomes' after' := by
  obtain ⟨done, rest, middle, split, paces, stops⟩ := crawler.exists_paces around links before
  obtain ⟨handled, reached, fetched⟩ := paces.handleInTurn same running
  have calm := crawler.undisturbed around
  have readable' : Readable crawler.withoutDeadline around.uncancelled :=
    ⟨readable.uncrashed, readable.harvested⟩
  have sequential' : crawler.withoutDeadline.parallel = false := sequential
  have kept' : crawler.withoutDeadline.keptLinks html = .ok links := kept
  obtain ⟨settled, first⟩ := exists_outcomes readable' page done free
  have first' : (crawler.handleInTurn around done before).mapM (crawler.decision page) =
      .ok settled := by
    rw [handled]
    exact first
  have running' := courseInTurn_cancelled _ _ calm links free running
  rcases stops with whole | stopping
  · rw [whole, List.append_nil] at split
    subst split
    have leads := leads_crawlPage_inTurn sequential around page kept first'
    have leads' := leads_crawlPage_inTurn sequential' around.uncancelled page kept' first
    rw [reached] at leads
    exact ⟨settled, middle, settled, _, leads, leads', running', .whole paces fetched⟩
  · obtain ⟨left, still, stopping'⟩ := stopping.handleInTurn advances rest
    obtain ⟨abandoned, decided, left⟩ := abandoned_outcomes crawler page left
    obtain ⟨missing, others⟩ := exists_outcomes readable' page rest
      (crawler.withoutDeadline.courseInTurn around.uncancelled done free)
    have decided' : (crawler.handleInTurn around links before).mapM (crawler.decision page) =
        .ok (settled ++ abandoned) := by
      rw [split, handleInTurn_append, reached]
      exact mapM_append_eq_ok first' decided
    have others' : (crawler.withoutDeadline.handleInTurn around.uncancelled links free).mapM
        (crawler.withoutDeadline.decision page) = .ok (settled ++ missing) := by
      rw [split, handleInTurn_append]
      exact mapM_append_eq_ok first others
    have leads := leads_crawlPage_inTurn sequential around page kept decided'
    have leads' := leads_crawlPage_inTurn sequential' around.uncancelled page kept' others'
    refine ⟨_, _, _, _, leads, leads', running', ?_⟩
    rw [split, courseInTurn_append, courseInTurn_append, reached, ← split]
    refine .short split paces still stopping' ?_ left
    rw [← fetched]
    exact courseInTurn_grows _ _ rest _

end Crawler

end PageHarvest
