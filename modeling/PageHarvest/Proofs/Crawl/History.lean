import Mathlib.Algebra.Group.Basic
import Mathlib.Algebra.Group.Int.Defs
import PageHarvest.Proofs.Crawl.Agreement
import PageHarvest.Proofs.Crawl.Together

/-! # Runs one after another

Whatever a crawler has been through, its next run gives what the run of a fresh crawler would: the
cancelling is forgotten, time starts anew, and nothing read before is kept. Left behind is the
result of the last run that ended well.
-/

namespace PageHarvest

variable {τ : Type}

namespace Crawler

/-- What happens to a crawler. -/
inductive Event (τ : Type) where
  | cancel
  | run (around : Surroundings τ) (limit : Nat)

/-- What the runs among some events give, and what the crawler has done by then. -/
def history (crawler : Crawler τ) :
    List (Event τ) → Activity τ → List (Except Abort (Option CrawlResult)) × Activity τ
  | [], activity => ([], activity)
  | .cancel :: rest, activity => history crawler rest (Crawling.runOn cancel activity).2
  | .run around limit :: rest, activity =>
    let (outcome, after) := Crawling.runOn (crawler.run around limit) activity
    let (others, last) := history crawler rest after
    (outcome :: others, last)

/-- The result that a run leaves behind. -/
def returned (outcome : Except Abort (Option CrawlResult)) : Option CrawlResult :=
  match outcome with
  | .ok result => result
  | .error _ => none

/-! ## What is left behind -/

private theorem within_deadline (crawler : Crawler τ) :
    crawler.within crawler.deadline = crawler := rfl

/-- A crawl is in step with itself, and walking leaves the last result alone. -/
theorem keepsStep_last (crawler : Crawler τ) (around : Surroundings τ)
    (last : Option CrawlResult) :
    KeepsStep crawler crawler.deadline around around
      fun course course' => course = course' ∧ course.last = last where
  reason := by
    rintro course _ ⟨rfl, -⟩
    rfl
  looked := by
    rintro course _ ⟨rfl, same⟩
    exact ⟨rfl, same⟩
  answer := by
    rintro course _ ⟨rfl, -⟩ url
    rfl
  asked := by
    rintro course _ ⟨rfl, same⟩ url
    exact ⟨rfl, same⟩
  cancelled := by
    rintro page - course _ ⟨rfl, same⟩
    exact ⟨rfl, same⟩
  steps _ _ := rfl

/-- A run that returns leaves its result behind; any other leaves what was there. -/
theorem run_last (crawler : Crawler τ) (around : Surroundings τ) (limit : Nat)
    (activity : Activity τ) :
    (Crawling.runOn (crawler.run around limit) activity).2.last =
      (returned (Crawling.runOn (crawler.run around limit) activity).1).or activity.last := by
  obtain ⟨outcome, after, _, walks, -, -, same⟩ :=
    (keepsStep_last crawler around activity.last).walk limit 0 {}
      (started around activity.toCourse) _ ⟨rfl, rfl⟩
  have runs := crawler.leads_run around walks
  have reached : (Crawling.runOn (crawler.run around limit) activity).2.toCourse =
      concluded outcome after := runs.run_snd
  have given : (Crawling.runOn (crawler.run around limit) activity).1 = outcome := runs.run_fst
  rw [given, reached]
  obtain abort | _ | result := outcome
  · exact same
  · exact same
  · rfl

/-- What is left behind is the result of the last run that returned. -/
theorem history_last (crawler : Crawler τ) (events : List (Event τ)) (activity : Activity τ) :
    (crawler.history events activity).2.last =
      ((crawler.history events activity).1.filterMap returned).getLast?.or activity.last := by
  induction events generalizing activity with
  | nil => rfl
  | cons event rest ih =>
    cases event with
    | cancel => exact ih (Crawling.runOn cancel activity).2
    | run around limit =>
      have later := ih (Crawling.runOn (crawler.run around limit) activity).2
      rw [crawler.run_last, ← Option.or_assoc] at later
      refine later.trans (congrArg (Option.or · activity.last) ?_)
      rw [history, List.filterMap_cons]
      cases returned (Crawling.runOn (crawler.run around limit) activity).1 with
      | none => exact Option.or_none
      | some result =>
        rw [List.getLast?_cons]
        cases ((crawler.history rest _).1.filterMap returned).getLast? <;> rfl

end Crawler

/-! ## Runs that nobody cancels -/

/-- A site that always answers alike, a clock of which only differences count, and nobody who
cancels. -/
structure Surroundings.Calm [Sub τ] [LT τ] [DecidableLT τ] (around : Surroundings τ)
    (site : String → Fetched) : Prop where
  answer : ∀ url earlier, around.answer url earlier = site url
  exceeds : ∀ start now limit, around.exceeds start now limit = decide (limit < now - start)
  cancels : ∀ url earlier, around.cancels url earlier = false
  interrupts : ∀ looks, around.interrupts looks = false
  steps : ∀ page, .cancel ∉ around.steps page

/-- Two courses of one run, of which one has read its clock more often and by a shifted time. -/
structure Shifted [Add τ] (earlier : Nat) (shift : τ) (course course' : Course τ) : Prop where
  running : course.cancelled = false
  running' : course'.cancelled = false
  readings : course.readings = earlier + course'.readings
  startedAt : course'.startedAt = course.startedAt + shift

/-- The clock never shows that a crawler is out of time. -/
def Crawler.Unhurried [Sub τ] [LT τ] (crawler : Crawler τ) (around : Surroundings τ) : Prop :=
  ∀ limit, crawler.deadline = some limit →
    ∀ start now, ¬limit < around.reading now - around.reading start

namespace Surroundings.Calm

variable {around around' : Surroundings τ} {site : String → Fetched}

section

variable [Sub τ] [LT τ] [DecidableLT τ] (calm : around.Calm site)

include calm

private theorem undisturbed (crawler : Crawler τ) : Undisturbed (crawler.within none) around :=
  ⟨rfl, calm.cancels, calm.interrupts, calm.steps⟩

private theorem asked_running {course : Course τ} (running : course.cancelled = false)
    (url : String) :
    (around.asked url course).cancelled = false := by
  rw [Surroundings.asked, running, calm.cancels]
  rfl

variable (crawler : Crawler τ) {course : Course τ} (running : course.cancelled = false)

include running

private theorem looked_running : (crawler.looked around course).cancelled = false := by
  rw [Crawler.looked, running, calm.interrupts]
  rfl

private theorem readings_looked :
    (crawler.looked around course).readings =
      course.readings + if crawler.deadline.isNone then 0 else 1 := by
  rw [Crawler.looked, running, calm.interrupts]
  rfl

/-- Nobody cancels, so that only the deadline is a reason to stop. -/
theorem reasonOn_eq :
    crawler.reasonOn around course = crawler.deadline.bind fun limit =>
      if limit < around.reading course.readings - course.startedAt then some .deadline
      else none := by
  rw [Crawler.reasonOn, running, calm.interrupts]
  cases crawler.deadline with
  | none => rfl
  | some limit =>
    rw [Option.bind_some, Bool.false_or, if_neg Bool.false_ne_true]
    simp only [calm.exceeds, decide_eq_true_eq]

omit running

variable {crawler} in
/-- A crawl that is never out of time is in step with one that has no deadline. -/
theorem keepsStep_unhurried (unhurried : crawler.Unhurried around) :
    KeepsStep crawler none around around fun course course' =>
      course.cancelled = false ∧ course'.cancelled = false ∧
        ∃ start, course.startedAt = around.reading start where
  reason := by
    rintro course course' ⟨running, running', start, startedAt⟩
    rw [calm.reasonOn_eq crawler running, calm.reasonOn_eq (crawler.within none) running',
      startedAt]
    cases deadline : crawler.deadline with
    | none => rfl
    | some limit => exact if_neg (unhurried limit deadline start course.readings)
  looked := by
    rintro course course' ⟨running, running', started⟩
    exact ⟨calm.looked_running crawler running, calm.looked_running _ running', started⟩
  answer := by
    intro course course' _ url
    rw [answerOn, answerOn, calm.answer, calm.answer]
  asked := by
    rintro course course' ⟨running, running', started⟩ url
    exact ⟨calm.asked_running running url, calm.asked_running running' url, started⟩
  cancelled page cancels := absurd cancels (calm.steps page)
  steps _ _ := rfl

end

/-- Two calm crawls under a shifted clock are in step. -/
theorem keepsStep_shifted [AddGroup τ] [LT τ] [DecidableLT τ] (calm : around.Calm site)
    (calm' : around'.Calm site) (crawler : Crawler τ)
    (steps : crawler.parallel = true → around'.steps = around.steps) {earlier : Nat} {shift : τ}
    (clock : ∀ readings, around'.reading readings = around.reading (earlier + readings) + shift) :
    KeepsStep crawler crawler.deadline around around' (Shifted earlier shift) where
  reason := by
    intro course course' shifted
    rw [crawler.within_deadline, calm.reasonOn_eq crawler shifted.running,
      calm'.reasonOn_eq crawler shifted.running', clock, shifted.readings, shifted.startedAt]
    simp only [add_sub_add_right_eq_sub]
  looked := by
    intro course course' shifted
    rw [crawler.within_deadline]
    refine ⟨calm.looked_running crawler shifted.running,
      calm'.looked_running crawler shifted.running', ?_, shifted.startedAt⟩
    rw [calm.readings_looked crawler shifted.running,
      calm'.readings_looked crawler shifted.running', shifted.readings, Nat.add_assoc]
  answer := by
    intro course course' _ url
    rw [answerOn, answerOn, calm.answer, calm'.answer]
  asked := by
    intro course course' shifted url
    exact ⟨calm.asked_running shifted.running url, calm'.asked_running shifted.running' url,
      shifted.readings, shifted.startedAt⟩
  cancelled page cancels := absurd cancels (calm.steps page)
  steps parallel page := congrFun (steps parallel) page

end Surroundings.Calm

namespace Crawler

variable {crawler : Crawler τ} {around around' : Surroundings τ} {site : String → Fetched}

/-- Walks that realize the same visits, in order, give the same outcome. -/
theorem outcome_eq_of_realizes (inOrder : crawler.InOrder)
    {course after course' after' : Course τ} {told : Except Abort (List PageVisit × Bool)}
    {outcome outcome' : Except Abort (Option CrawlResult)}
    (one : crawler.Realizes around 0 {} course after told outcome)
    (other : crawler.Realizes around' 0 {} course' after' told outcome') : outcome = outcome' := by
  cases one with
  | broken abort =>
    cases other
    rfl
  | ongoing =>
    cases other
    rfl
  | ended rearranged chronicle =>
    cases other with
    | ended rearranged' chronicle' =>
      obtain rfl := PageVisit.eq_of_rearranged inOrder rearranged
      obtain rfl := PageVisit.eq_of_rearranged inOrder rearranged'
      rw [chronicle.eq_ofVisits, chronicle'.eq_ofVisits]

/-- A run under a shifted clock gives the same outcome. -/
theorem run_shifted [AddGroup τ] [LT τ] [DecidableLT τ] (calm : around.Calm site)
    (calm' : around'.Calm site) (steps : crawler.parallel = true → around'.steps = around.steps)
    {shift : τ} {activity fresh : Activity τ} (unread : fresh.readings = 0)
    (clock : ∀ readings,
      around'.reading readings = around.reading (activity.readings + readings) + shift)
    (limit : Nat) :
    (Crawling.runOn (crawler.run around limit) activity).1 =
      (Crawling.runOn (crawler.run around' limit) fresh).1 := by
  refine (calm.keepsStep_shifted calm' crawler steps clock).run limit ⟨rfl, rfl, ?_, ?_⟩
  · change activity.readings + 1 = activity.readings + (fresh.readings + 1)
    rw [unread]
  · change around'.reading fresh.readings = around.reading activity.readings + shift
    rw [unread, clock, Nat.add_zero]

section

variable [Sub τ] [LT τ] [DecidableLT τ]

private theorem run_within_none (calm : around.Calm site) (unhurried : crawler.Unhurried around)
    (limit : Nat) (activity : Activity τ) :
    (Crawling.runOn (crawler.run around limit) activity).1 =
      (Crawling.runOn ((crawler.within none).run around limit) activity).1 :=
  (calm.keepsStep_unhurried unhurried).run limit ⟨rfl, rfl, activity.readings, rfl⟩

/-- Runs that have time enough give the same outcome, whatever steps their workers take. -/
theorem run_unhurried (inOrder : crawler.InOrder) (calm : around.Calm site)
    (calm' : around'.Calm site) (unhurried : crawler.Unhurried around)
    (unhurried' : crawler.Unhurried around') (limit : Nat) (activity activity' : Activity τ) :
    (Crawling.runOn (crawler.run around limit) activity).1 =
      (Crawling.runOn (crawler.run around' limit) activity').1 := by
  have ordered : (crawler.within none).InOrder := inOrder
  obtain ⟨after, realizes, -⟩ := run_steady calm.answer (calm.undisturbed crawler) limit activity
  obtain ⟨after', realizes', -⟩ :=
    run_steady calm'.answer (calm'.undisturbed crawler) limit activity'
  rw [run_within_none calm unhurried, run_within_none calm' unhurried']
  exact outcome_eq_of_realizes ordered realizes realizes'

end

/-- Runs leave no trace but their result: after any history, the result left behind is that of the
last run that returned; and a run that nobody cancels gives what the same run of a new crawler
gives under a shifted clock, and, if outcomes are kept in order and there is time enough, with
whatever steps of the workers. -/
theorem run_after_history [AddGroup τ] [LT τ] [DecidableLT τ] (crawler : Crawler τ)
    (events : List (Event τ)) (began began' : τ) {site : String → Fetched}
    {around fresh : Surroundings τ} (calm : around.Calm site) (calm' : fresh.Calm site) :
    let past := crawler.history events { startedAt := began }
    past.2.last = (past.1.filterMap returned).getLast? ∧
    ((((crawler.parallel = true → fresh.steps = around.steps) ∧ ∃ shift, ∀ readings,
          fresh.reading readings = around.reading (past.2.readings + readings) + shift) ∨
        (crawler.InOrder ∧ crawler.Unhurried around ∧ crawler.Unhurried fresh)) →
      ∀ limit, (Crawling.runOn (crawler.run around limit) past.2).1 =
        (Crawling.runOn (crawler.run fresh limit) { startedAt := began' }).1) := by
  intro past
  refine ⟨(crawler.history_last events _).trans Option.or_none, ?_⟩
  rintro (⟨steps, shift, clock⟩ | ⟨inOrder, unhurried, unhurried'⟩) limit
  · exact run_shifted calm calm' steps rfl clock limit
  · exact run_unhurried inOrder calm calm' unhurried unhurried' limit _ _

end Crawler

/-! ## A crawler with a past -/

namespace Sample

/-- A crawler of the small site that takes links in turn and has little time. -/
def timedCrawler : Crawler Int where
  baseUrl := "s"
  linkPath := crawler.linkPath
  spec := {}
  parallel := false
  deadline := some 2

/-- The small site under a clock that ticks with each reading, from a time on. -/
def timedAround (began : Int) : Surroundings Int where
  answer url _ := site url
  reading readings := began + readings
  exceeds start now limit := limit < now - start

private theorem timedAround_calm (began : Int) : (timedAround began).Calm site where
  answer _ _ := rfl
  exceeds _ _ _ := rfl
  cancels _ _ := rfl
  interrupts _ := rfl
  steps _ := List.not_mem_nil

private theorem timedAround_shifted (began began' : Int) (earlier : Nat) :
    ∃ shift, ∀ readings, (timedAround began').reading readings =
      (timedAround began).reading (earlier + readings) + shift := by
  refine ⟨began' - began - earlier, fun readings => ?_⟩
  simp only [timedAround]
  push_cast
  omega

/-- A run that is cancelled over its first link, a cancelling, and a run whose seed is down. -/
def past : List (Crawler.Event Int) :=
  [.run { timedAround 0 with cancels := fun url _ => url == "u" } 3, .cancel,
    .run { timedAround 0 with answer := fun url _ => .failed ⟨url, "down", none⟩ } 3]

end Sample

namespace Crawler

/-- The cancelled run is the last that returned, and the next run is as good as new. -/
theorem run_after_history_sample :
    let past := Sample.timedCrawler.history Sample.past { startedAt := 0 }
    past.2.last = some
      { records := [{ url := some "u" }], failures := [⟨"v", "cancelled", 0⟩], pages := 1 } ∧
    (Crawling.runOn (Sample.timedCrawler.run (Sample.timedAround 0) 3) past.2).1 =
      (Crawling.runOn (Sample.timedCrawler.run (Sample.timedAround 100) 3)
        { startedAt := 0 }).1 := by
  obtain ⟨last, next⟩ := run_after_history Sample.timedCrawler Sample.past 0 0
    (Sample.timedAround_calm 0) (Sample.timedAround_calm 100)
  refine ⟨last.trans ?_, next (.inl ⟨fun _ => rfl, Sample.timedAround_shifted 0 100 _⟩) 3⟩
  decide +kernel

end Crawler

end PageHarvest
