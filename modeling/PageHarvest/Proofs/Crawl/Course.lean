import PageHarvest.Crawl.Walk

/-! # Courses

What a crawl does depends on its course so far and never on its journal. A piece of work `Leads`
from a course to a value and a course when it does so whatever the journal holds, and the small
pieces of work are described by functions on courses: a look for a reason to stop, a fetch, and
the links that a page gives.
-/

namespace PageHarvest

variable {τ α β : Type}

/-- Work that, whatever the journal holds, gives a value and goes from a course to a course. -/
def Leads (work : StateM (Activity τ) α) (before : Course τ) (value : α) (after : Course τ) :
    Prop :=
  ∀ journal, ∃ journal', work.run ⟨before, journal⟩ = (value, ⟨after, journal'⟩)

namespace Leads

variable {work : StateM (Activity τ) α} {before after : Course τ} {value : α}

theorem pure (value : α) (course : Course τ) :
    Leads (Pure.pure value : StateM (Activity τ) α) course value course :=
  fun journal => ⟨journal, rfl⟩

theorem bind {next : α → StateM (Activity τ) β} {middle : Course τ} {result : β}
    (first : Leads work before value middle) (second : Leads (next value) middle result after) :
    Leads (work >>= next) before result after := by
  intro journal
  obtain ⟨journal', ran⟩ := first journal
  obtain ⟨journal'', goesOn⟩ := second journal'
  refine ⟨journal'', ?_⟩
  change (match work.run ⟨before, journal⟩ with | (value, middle) => (next value).run middle) = _
  rw [ran]
  exact goesOn

/-- A course decides what work leads to. -/
theorem unique {value' : α} {after' : Course τ} (one : Leads work before value after)
    (other : Leads work before value' after') : value = value' ∧ after = after' := by
  obtain ⟨_, ran⟩ := one []
  obtain ⟨_, ran'⟩ := other []
  have same := ran.symm.trans ran'
  exact ⟨congrArg Prod.fst same, congrArg (fun result => result.2.toCourse) same⟩

theorem run_fst {activity : Activity τ} (leads : Leads work activity.toCourse value after) :
    (work.run activity).1 = value := by
  obtain ⟨_, ran⟩ := leads activity.journal
  exact congrArg Prod.fst ran

theorem run_snd {activity : Activity τ} (leads : Leads work activity.toCourse value after) :
    (work.run activity).2.toCourse = after := by
  obtain ⟨_, ran⟩ := leads activity.journal
  exact congrArg (fun result => result.2.toCourse) ran

/-! ## Work that may abort -/

variable {crawling : Crawling τ α} {result : Except Abort β}

theorem run_pure (value : α) (course : Course τ) :
    Leads (Pure.pure value : Crawling τ α).run course (.ok value) course :=
  pure _ _

theorem run_throw (abort : Abort) (course : Course τ) :
    Leads (throw abort : Crawling τ α).run course (.error abort) course :=
  pure _ _

theorem run_bind {next : α → Crawling τ β} {middle : Course τ}
    (first : Leads crawling.run before (.ok value) middle)
    (second : Leads (next value).run middle result after) :
    Leads (crawling >>= next).run before result after := by
  rw [ExceptT.run_bind]
  exact bind first second

theorem run_bind_error {next : α → Crawling τ β} {abort : Abort}
    (first : Leads crawling.run before (.error abort) after) :
    Leads (crawling >>= next).run before (.error abort) after := by
  rw [ExceptT.run_bind]
  exact bind first (pure _ _)

theorem run_bind_same {outcome : Except Abort α} {next : α → Crawling τ β}
    {rest : α → Except Abort β} (first : Leads crawling.run before outcome after)
    (second : ∀ value, Leads (next value).run after (rest value) after) :
    Leads (crawling >>= next).run before (outcome >>= rest) after := by
  cases outcome with
  | error abort => exact run_bind_error first
  | ok value => exact run_bind first (second value)

theorem run_lift (leads : Leads work before value after) :
    Leads (liftM work : Crawling τ α).run before (.ok value) after := by
  intro journal
  obtain ⟨journal', ran⟩ := leads journal
  refine ⟨journal', ?_⟩
  change (match work.run ⟨before, journal⟩ with
    | (value, activity) => (Except.ok value, activity)) = _
  rw [ran]

end Leads

namespace Crawling

theorem leads_notes (entries : List Journal.Entry) (course : Course τ) :
    Leads (notes entries : Crawling τ Unit).run course (.ok ()) course :=
  fun journal => ⟨journal ++ entries, rfl⟩

theorem leads_note (source : Journal.Source) (level : Journal.Level) (text : String)
    (course : Course τ) :
    Leads (note source level text : Crawling τ Unit).run course (.ok ()) course :=
  leads_notes [⟨source, level, text⟩] course

/-- What reading from a page comes to. -/
def readingOutcome (work : Logged Selector.Unsupported α) : Except Abort α :=
  match work.outcome.1 with
  | .ok value => .ok value
  | .error what => .error (.selector what)

/-- Reading from a page gives a value exactly when the work behind it does. -/
theorem readingOutcome_eq_ok {work : Logged Selector.Unsupported α} {value : α} :
    readingOutcome work = .ok value ↔ work.outcome.1 = .ok value := by
  unfold readingOutcome
  cases work.outcome.1 with
  | ok read => simp
  | error what => simp

theorem leads_reading (work : Logged Selector.Unsupported α) (course : Course τ) :
    Leads (reading work).run course (readingOutcome work) course := by
  refine Leads.run_bind (leads_notes _ course) ?_
  rw [readingOutcome]
  cases work.outcome.1 with
  | ok value => exact Leads.run_pure value course
  | error what => exact Leads.run_throw _ course

end Crawling

/-! ## Fetching -/

namespace Surroundings

variable (around : Surroundings τ)

/-- What asking for a URL gives on a course. -/
def answerOn (course : Course τ) (url : String) : Fetched :=
  around.answer url (course.fetched.count url)

/-- The course after asking for a URL. -/
def asked (url : String) (course : Course τ) : Course τ :=
  { course with
    fetched := course.fetched ++ [url]
    cancelled := course.cancelled || around.cancels url (course.fetched.count url) }

/-- What fetching URLs one after another gives, after earlier ones. -/
def answers (earlier : List String) : List String → List (String × Fetched)
  | [] => []
  | url :: rest =>
    (url, around.answer url (earlier.count url)) :: answers (earlier ++ [url]) rest

theorem answers_append (earlier first second : List String) :
    around.answers earlier (first ++ second) =
      around.answers earlier first ++ around.answers (earlier ++ first) second := by
  induction first generalizing earlier with
  | nil => rw [List.append_nil]; rfl
  | cons url rest ih =>
    rw [List.cons_append, answers, answers, ih, List.append_assoc, List.singleton_append]
    rfl

theorem answers_fst (earlier urls : List String) :
    (around.answers earlier urls).map Prod.fst = urls := by
  induction urls generalizing earlier with
  | nil => rfl
  | cons url rest ih => rw [answers, List.map_cons, ih]

end Surroundings

theorem Crawling.leads_ask (around : Surroundings τ) (url : String) (course : Course τ) :
    Leads (ask around url).run course (.ok (around.answerOn course url))
      (around.asked url course) :=
  fun journal => ⟨journal, rfl⟩

/-! ## Looking for a reason to stop -/

namespace Crawler

variable (crawler : Crawler τ) (around : Surroundings τ)

/-- The reason to stop that a look on a course sees. -/
def reasonOn (course : Course τ) : Option StopReason :=
  if course.cancelled || around.interrupts course.looks then some .cancelled
  else match crawler.deadline with
    | none => none
    | some limit =>
      if around.exceeds course.startedAt (around.reading course.readings) limit then some .deadline
      else none

/-- The course after a look for a reason to stop. -/
def looked (course : Course τ) : Course τ :=
  let cancelled := course.cancelled || around.interrupts course.looks
  { course with
    looks := course.looks + 1
    cancelled
    readings := course.readings + if cancelled || crawler.deadline.isNone then 0 else 1 }

/-- The look for a reason to stop reads the clock only if there is a deadline. -/
theorem leads_stopReason (course : Course τ) :
    Leads (crawler.stopReason around).run course (.ok (crawler.reasonOn around course))
      (crawler.looked around course) := by
  have look : Leads (Crawling.cancelled around).run course
      (.ok (course.cancelled || around.interrupts course.looks))
      { course with
        looks := course.looks + 1
        cancelled := course.cancelled || around.interrupts course.looks } :=
    fun journal => ⟨journal, rfl⟩
  refine Leads.run_bind look ?_
  rw [reasonOn, looked]
  cases course.cancelled || around.interrupts course.looks with
  | true => exact Leads.run_pure _ _
  | false =>
    cases crawler.deadline with
    | none => exact Leads.run_pure _ _
    | some limit =>
      -- The start is read off the whole activity, so this part runs on a journal.
      refine fun journal => ⟨journal, ?_⟩
      change ((if around.exceeds course.startedAt (around.reading course.readings) limit
        then Pure.pure (some .deadline)
        else Pure.pure none : Crawling τ (Option StopReason)).run.run _ :
          Except Abort (Option StopReason) × Activity τ) = _
      dsimp only
      cases around.exceeds course.startedAt (around.reading course.readings) limit with
      | true => rfl
      | false => rfl

end Crawler

end PageHarvest
