import PageHarvest.Proofs.Crawl.Course

/-! # How links are dealt with

A link is abandoned or fetched, and that decides what becomes of it. Taking the links of a page in
turn deals with one after another; in a crawl that nothing stops, none is abandoned.
-/

namespace PageHarvest

variable {τ : Type}

/-- How a link is dealt with. -/
inductive Treatment where
  | abandoned (reason : StopReason)
  | answered (answer : Fetched)
  deriving DecidableEq, Inhabited

/-- A link that was dealt with. -/
structure Handled where
  link : String
  treatment : Treatment
  deriving DecidableEq, Inhabited

namespace Handled

/-- The fetches that dealing with a link took. -/
def fetches (handled : Handled) : List (String × Fetched) :=
  match handled.treatment with
  | .abandoned _ => []
  | .answered answer => [(handled.link, answer)]

/-- Nothing is abandoned in calm, and what was fetched is what the site gives. -/
def Fits (around : Surroundings τ) (calm : Prop) (handled : Handled) : Prop :=
  match handled.treatment with
  | .abandoned _ => ¬calm
  | .answered answer => ∃ earlier, answer = around.answer handled.link earlier

private theorem Fits.mono {around : Surroundings τ} {calm calmer : Prop} {handled : Handled}
    (fits : handled.Fits around calm) (implies : calmer → calm) : handled.Fits around calmer := by
  obtain ⟨link, treatment⟩ := handled
  cases treatment with
  | abandoned reason => exact fun calmer => fits (implies calmer)
  | answered answer => exact fits

end Handled

/-- A crawl that nothing stops: it has no deadline, and nobody cancels it. -/
structure Undisturbed (crawler : Crawler τ) (around : Surroundings τ) : Prop where
  deadline : crawler.deadline = none
  cancels : ∀ url earlier, around.cancels url earlier = false
  interrupts : ∀ looks, around.interrupts looks = false
  steps : ∀ page, .cancel ∉ around.steps page

/-- The fetches between two courses, in order if it is known. -/
def Fetches (around : Surroundings τ) (inOrder : Prop) (before after : Course τ)
    (fetches : List (String × Fetched)) : Prop :=
  ∃ urls, after.fetched = before.fetched ++ urls ∧
    (around.answers before.fetched urls).Perm fetches ∧
    (inOrder → around.answers before.fetched urls = fetches)

namespace Fetches

variable {around : Surroundings τ} {inOrder : Prop} {before middle after : Course τ}
  {first second : List (String × Fetched)}

theorem none (same : after.fetched = before.fetched) : Fetches around inOrder before after [] :=
  ⟨[], by rw [same, List.append_nil], .refl _, fun _ => rfl⟩

theorem trans (one : Fetches around inOrder before middle first)
    (other : Fetches around inOrder middle after second) :
    Fetches around inOrder before after (first ++ second) := by
  obtain ⟨urls, reached, perm, same⟩ := one
  obtain ⟨urls', reached', perm', same'⟩ := other
  refine ⟨urls ++ urls', ?_, ?_, ?_⟩
  · rw [reached', reached, List.append_assoc]
  · rw [around.answers_append, ← reached]
    exact perm.append perm'
  · intro known
    rw [around.answers_append, ← reached, same known, same' known]

theorem perm (one : Fetches around False before after first) (perm : first.Perm second) :
    Fetches around False before after second := by
  obtain ⟨urls, reached, perm', -⟩ := one
  exact ⟨urls, reached, perm'.trans perm, False.elim⟩

theorem weaken {known : Prop} (one : Fetches around known before after first)
    (implies : inOrder → known) : Fetches around inOrder before after first := by
  obtain ⟨urls, reached, perm, same⟩ := one
  exact ⟨urls, reached, perm, fun given => same (implies given)⟩

theorem grows (one : Fetches around inOrder before after first) :
    before.fetched <+: after.fetched := by
  obtain ⟨urls, reached, -⟩ := one
  exact ⟨urls, reached.symm⟩

theorem congr (one : Fetches around inOrder before middle first)
    (same : after.fetched = middle.fetched) : Fetches around inOrder before after first := by
  rwa [Fetches, same]

theorem asked (url : String) (course : Course τ) :
    Fetches around inOrder course (around.asked url course) [(url, around.answerOn course url)] :=
  ⟨[url], rfl, .refl _, fun _ => rfl⟩

end Fetches

namespace Crawler

variable (crawler : Crawler τ) (around : Surroundings τ)

@[simp]
theorem looked_fetched (course : Course τ) :
    (crawler.looked around course).fetched = course.fetched := rfl

/-- What the verdict on a link lets through. -/
def followed : Verdict → Except Abort (List String)
  | .follow link => .ok [link]
  | .crash crash => .error (.crash crash)
  | .drop | .malformed _ | .reject _ => .ok []

/-- The links that a filter lets through, or what it crashes with. -/
def keptBy (filter : LinkFilter) : List String → Except Abort (List String)
  | [] => return []
  | link :: rest => do
    let kept ← followed (filter link)
    return kept ++ (← keptBy filter rest)

/-- The links of a page, or what reading them breaks down with. -/
def keptLinks (html : String) : Except Abort (List String) := do
  let found ← Crawling.readingOutcome
    (Document.Place.engine.evaluate crawler.linkPath (Document.parse html))
  match crawler.linkFilter with
  | none => return found.values
  | some filter => keptBy filter found.values

private theorem leads_keep (link : String) (verdict : Verdict) (course : Course τ) :
    Leads (keep link verdict).run course (followed verdict) course := by
  refine Leads.run_bind (Crawling.leads_notes _ course) ?_
  cases verdict with
  | follow link => exact Leads.run_pure _ course
  | drop => exact Leads.run_pure _ course
  | malformed reason => exact Leads.run_pure _ course
  | reject reason => exact Leads.run_pure _ course
  | crash crash => exact Leads.run_throw _ course

private theorem leads_keepLinks (filter : LinkFilter) (links : List String) (course : Course τ) :
    Leads (keepLinks filter links).run course (keptBy filter links) course := by
  induction links with
  | nil => exact Leads.run_pure _ course
  | cons link rest ih =>
    refine Leads.run_bind_same (leads_keep link (filter link) course) fun kept => ?_
    exact Leads.run_bind_same ih fun more => Leads.run_pure _ course

/-- Discovering links leaves the course as it is. -/
theorem leads_discoverLinks (html : String) (course : Course τ) :
    Leads (crawler.discoverLinks html).run course (crawler.keptLinks html) course := by
  refine Leads.run_bind_same (Crawling.leads_reading _ course) fun found => ?_
  cases crawler.linkFilter with
  | none => exact Leads.run_pure _ course
  | some filter => exact leads_keepLinks filter _ course

/-! ## Single links -/

/-- What becomes of a link of a page by the way it was dealt with. -/
def decision (page : Nat) (handled : Handled) : Except Abort LinkOutcome :=
  match handled.treatment with
  | .abandoned reason => .ok (abandoned handled.link page reason)
  | .answered (.document html) =>
    return .found (← Crawling.readingOutcome (harvest crawler.spec (some handled.link) html))
  | .answered (.failed failure) => .ok (.failed ⟨handled.link, failure.reason, page⟩)
  | .answered (.crashed crash) => .error (.crash crash)

/-- Fetching a link comes to the decision on its answer, and asks for nothing else. -/
theorem leads_fetchLink (page : Nat) (link : String) (course : Course τ) :
    Leads (crawler.fetchLink around page link).run course
      (crawler.decision page ⟨link, .answered (around.answerOn course link)⟩)
      (around.asked link course) := by
  refine Leads.run_bind (Crawling.leads_ask around link course) ?_
  rw [decision]
  cases around.answerOn course link with
  | document html =>
    exact Leads.run_bind_same (Crawling.leads_reading _ _) fun record => Leads.run_pure _ _
  | failed failure => exact Leads.run_bind (Crawling.leads_note _ _ _ _) (Leads.run_pure _ _)
  | crashed crash => exact Leads.run_throw _ _

/-- How a link is dealt with on a course. -/
def handle (link : String) (course : Course τ) : Handled where
  link
  treatment := match crawler.reasonOn around course with
    | some reason => .abandoned reason
    | none => .answered (around.answerOn course link)

/-- The course after a link was dealt with. -/
def handledOn (link : String) (course : Course τ) : Course τ :=
  match crawler.reasonOn around course with
  | some _ => crawler.looked around course
  | none => around.asked link (crawler.looked around course)

/-- Processing a link comes to the decision on how it is handled. -/
theorem leads_processLink (page : Nat) (link : String) (course : Course τ) :
    Leads (crawler.processLink around page link).run course
      (crawler.decision page (crawler.handle around link course))
      (crawler.handledOn around link course) := by
  refine Leads.run_bind (crawler.leads_stopReason around course) ?_
  rw [handle, handledOn]
  cases crawler.reasonOn around course with
  | some reason => exact Leads.run_pure _ _
  | none => exact crawler.leads_fetchLink around page link _

/-! ## Links one after another -/

/-- How links are dealt with that are taken in turn. -/
def handleInTurn : List String → Course τ → List Handled
  | [], _ => []
  | link :: rest, course =>
    crawler.handle around link course :: handleInTurn rest (crawler.handledOn around link course)

/-- The course after links that are taken in turn. -/
def courseInTurn (links : List String) (course : Course τ) : Course τ :=
  links.foldl (fun course link => crawler.handledOn around link course) course

private theorem handledOn_grows (link : String) (course : Course τ) :
    course.fetched <+: (crawler.handledOn around link course).fetched := by
  rw [handledOn]
  cases crawler.reasonOn around course with
  | some reason => exact List.prefix_refl _
  | none => exact List.prefix_append _ _

/-- Taking links in turn ends at the first one that breaks down. -/
theorem leads_processInTurn (page : Nat) (links : List String) (course : Course τ) :
    ∃ after, Leads (crawler.processInTurn around page links).run course
        ((crawler.handleInTurn around links course).mapM (crawler.decision page)) after ∧
      course.fetched <+: after.fetched ∧
      ∀ outcomes, (crawler.handleInTurn around links course).mapM (crawler.decision page) =
        .ok outcomes → after = crawler.courseInTurn around links course := by
  induction links generalizing course with
  | nil => exact ⟨course, Leads.run_pure _ course, List.prefix_refl _, fun _ _ => rfl⟩
  | cons link rest ih =>
    obtain ⟨after, leads, grows, reached⟩ := ih (crawler.handledOn around link course)
    have first := crawler.leads_processLink around page link course
    have begun := crawler.handledOn_grows around link course
    rw [handleInTurn, List.mapM_cons]
    cases decided : crawler.decision page (crawler.handle around link course) with
    | error abort =>
      rw [decided] at first
      exact ⟨_, Leads.run_bind_error first, begun, nofun⟩
    | ok outcome =>
      rw [decided] at first
      refine ⟨after, Leads.run_bind first ?_, begun.trans grows, ?_⟩
      · exact Leads.run_bind_same leads fun _ => Leads.run_pure _ _
      · intro outcomes ended
        cases others : (crawler.handleInTurn around rest
          (crawler.handledOn around link course)).mapM (crawler.decision page) with
        | error abort => rw [others] at ended; cases ended
        | ok more => exact reached more others

section

variable {crawler around}

theorem reasonOn_eq_none (calm : Undisturbed crawler around) {course : Course τ}
    (running : course.cancelled = false) : crawler.reasonOn around course = none := by
  rw [reasonOn, running, calm.interrupts, calm.deadline]
  rfl

theorem looked_cancelled (calm : Undisturbed crawler around) {course : Course τ}
    (running : course.cancelled = false) : (crawler.looked around course).cancelled = false := by
  rw [looked, running, calm.interrupts]
  rfl

theorem asked_cancelled (calm : Undisturbed crawler around) {course : Course τ} (url : String)
    (running : course.cancelled = false) : (around.asked url course).cancelled = false := by
  rw [Surroundings.asked, running, calm.cancels]
  rfl

theorem handledOn_cancelled (calm : Undisturbed crawler around) {course : Course τ}
    (link : String) (running : course.cancelled = false) :
    (crawler.handledOn around link course).cancelled = false := by
  rw [handledOn, reasonOn_eq_none calm running]
  exact asked_cancelled calm link (looked_cancelled calm running)

end

/-- A link is handled in one of the ways that fit its surroundings. -/
theorem handle_fits (link : String) (course : Course τ) :
    (crawler.handle around link course).Fits around
      (Undisturbed crawler around ∧ course.cancelled = false) := by
  cases reason : crawler.reasonOn around course with
  | some reason =>
    simp only [Handled.Fits, handle, reason]
    rintro ⟨calm, running⟩
    rw [reasonOn_eq_none calm running] at reason
    cases reason
  | none =>
    simp only [Handled.Fits, handle, reason]
    exact ⟨_, rfl⟩

private theorem handle_fetches (link : String) (course : Course τ) {inOrder : Prop} :
    Fetches around inOrder course (crawler.handledOn around link course)
      (crawler.handle around link course).fetches := by
  rw [handledOn, handle, Handled.fetches]
  cases crawler.reasonOn around course with
  | some reason => exact .none rfl
  | none => exact .asked link (crawler.looked around course)

/-- Handling links in turn handles each of them once, in order. -/
theorem handleInTurn_links (links : List String) (course : Course τ) :
    (crawler.handleInTurn around links course).map Handled.link = links := by
  induction links generalizing course with
  | nil => rfl
  | cons link rest ih => rw [handleInTurn, List.map_cons, ih]; rfl

theorem handleInTurn_fits (links : List String) (course : Course τ) :
    ∀ handled ∈ crawler.handleInTurn around links course,
      handled.Fits around (Undisturbed crawler around ∧ course.cancelled = false) := by
  induction links generalizing course with
  | nil => exact nofun
  | cons link rest ih =>
    rw [handleInTurn]
    rintro handled (_ | ⟨_, member⟩)
    · exact crawler.handle_fits around link course
    · exact (ih _ handled member).mono fun ⟨calm, running⟩ =>
        ⟨calm, handledOn_cancelled calm link running⟩

/-- Links handled in turn are fetched in turn. -/
theorem handleInTurn_fetches (links : List String) (course : Course τ) {inOrder : Prop} :
    Fetches around inOrder course (crawler.courseInTurn around links course)
      ((crawler.handleInTurn around links course).flatMap Handled.fetches) := by
  induction links generalizing course with
  | nil => exact .none rfl
  | cons link rest ih =>
    rw [handleInTurn, List.flatMap_cons]
    exact (crawler.handle_fetches around link course).trans (ih _)

theorem courseInTurn_grows (links : List String) (course : Course τ) :
    course.fetched <+: (crawler.courseInTurn around links course).fetched := by
  have fetches : Fetches around True course (crawler.courseInTurn around links course)
      ((crawler.handleInTurn around links course).flatMap Handled.fetches) :=
    crawler.handleInTurn_fetches around links course
  exact fetches.grows

theorem courseInTurn_cancelled (calm : Undisturbed crawler around) (links : List String)
    (course : Course τ) (running : course.cancelled = false) :
    (crawler.courseInTurn around links course).cancelled = false := by
  induction links generalizing course with
  | nil => exact running
  | cons link rest ih => exact ih _ (handledOn_cancelled calm link running)

end Crawler

end PageHarvest
