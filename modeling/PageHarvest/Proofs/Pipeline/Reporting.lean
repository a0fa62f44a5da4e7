import PageHarvest.Pipeline.Run
import PageHarvest.Proofs.Console.Lawful
import PageHarvest.Proofs.Crawl.Visit
import PageHarvest.Proofs.Text.Spelling

/-! # Reporting and the outcome of a run

What a run prints changes its outcome in one way only: the line that announces what is about to be
read holds the URL as markup, and where the console does not print that the run ends before anything
is read. Diagnostics are printed as they are and the line with the counts always shows, so every
other run gives what the populator gives that the configuration is built into.
-/

namespace PageHarvest

open Console Report Text

variable {τ α β : Type}

namespace Pipeline

/-! ## Work of a run on courses -/

/-- Work that, whatever was noted and printed before it, gives an outcome and goes from a course to
a course. -/
def Runs (work : Running τ α) (before : Course τ) (outcome : Except RunFault α)
    (after : Course τ) : Prop :=
  ∀ progress : Progress τ, progress.activity.toCourse = before →
    ∃ progress', work.run.run progress = (outcome, progress') ∧
      progress'.activity.toCourse = after

namespace Runs

variable {work : Running τ α} {before middle after : Course τ} {value : α}

private theorem pure (value : α) (course : Course τ) :
    Runs (Pure.pure value : Running τ α) course (.ok value) course :=
  fun progress stands => ⟨progress, rfl, stands⟩

private theorem throw (fault : RunFault) (course : Course τ) :
    Runs (MonadExcept.throw fault : Running τ α) course (.error fault) course :=
  fun progress stands => ⟨progress, rfl, stands⟩

private theorem bind {next : α → Running τ β} {outcome : Except RunFault β}
    (first : Runs work before (.ok value) middle)
    (second : Runs (next value) middle outcome after) :
    Runs (work >>= next) before outcome after := by
  intro progress stands
  obtain ⟨progress', ran, stands'⟩ := first progress stands
  obtain ⟨progress'', goesOn, stands''⟩ := second progress' stands'
  refine ⟨progress'', ?_, stands''⟩
  rw [ExceptT.run_bind, StateT.run_bind, ran]
  exact goesOn

private theorem bind_error {next : α → Running τ β} {fault : RunFault}
    (first : Runs work before (.error fault) after) :
    Runs (work >>= next) before (.error fault) after := by
  intro progress stands
  obtain ⟨progress', ran, stands'⟩ := first progress stands
  refine ⟨progress', ?_, stands'⟩
  rw [ExceptT.run_bind, StateT.run_bind, ran]
  rfl

/-- What gives back the value that it was given changes no outcome. -/
theorem bind_same {next : α → Running τ α} {outcome : Except RunFault α}
    (first : Runs work before outcome after)
    (second : ∀ value, Runs (next value) after (.ok value) after) :
    Runs (work >>= next) before outcome after := by
  cases outcome with
  | error fault => exact bind_error first
  | ok value => exact bind first (second value)

end Runs

private theorem runs_printLines (lines : List String) (course : Course τ) :
    Runs (printLines lines : Running τ Unit) course (.ok ()) course :=
  fun progress stands => ⟨{ progress with printed := progress.printed ++ lines }, rfl, stands⟩

private theorem run_crawling (work : Crawling τ α) (progress : Progress τ) :
    (crawling work).run.run progress =
      ((work.runOn progress.activity).1.mapError RunFault.abort,
        { progress with activity := (work.runOn progress.activity).2 }) := by
  rw [crawling, run_get_bind]
  obtain ⟨outcome, activity⟩ := work.runOn progress.activity
  cases outcome with
  | ok value => rfl
  | error abort => rfl

private theorem runs_crawling {work : Crawling τ α} {outcome : Except Abort α}
    {before after : Course τ}
    (leads : Leads work.run before outcome after) :
    Runs (crawling work) before (outcome.mapError RunFault.abort) after := by
  rintro progress rfl
  exact ⟨_, by rw [run_crawling, Crawling.runOn, leads.run_fst], leads.run_snd⟩

/-! ## Reports -/

private theorem runs_report {printed : Printed} (prints : ∃ lines, printed = .ok lines)
    (course : Course τ) : Runs (report printed : Running τ Unit) course (.ok ()) course := by
  obtain ⟨lines, rfl⟩ := prints
  exact runs_printLines _ course

private theorem not_mem_toDigits {c : Char} (mark : c.isDigit = false) (n : Nat) :
    c ∉ Nat.toDigits 10 n := by
  intro member
  exact absurd (isDigit_of_mem_toDigits member) (by simp [mark])

theorem not_mem_repr {c : Char} (mark : c.isDigit = false) (unsigned : c ≠ '-') (n : Int) :
    c ∉ n.repr.toList := by
  cases n with
  | ofNat n => simpa [Int.repr] using not_mem_toDigits mark n
  | negSucc n => simpa [Int.repr, unsigned] using not_mem_toDigits mark (n + 1)

private theorem summary_eq (result : CrawlResult) :
    (summary result).toList =
      styled "success".toList
        ("✓ ".toList ++ Nat.toDigits 10 result.records.length ++ " record(s)".toList) ++
      ((" from ".toList ++ result.pages.repr.toList ++ " page(s), ".toList) ++
        (styled "warning".toList
          (Nat.toDigits 10 result.failures.length ++ " failure(s)".toList) ++ [])) := by
  -- The equation of `summary` is slow to come by, since it compares texts.
  delta summary
  simp [styled, toString]

/-- The line with the counts shows, whatever was read. -/
theorem summary_shows (result : CrawlResult) (check : EventCheck) :
    Shows check [] 0 (summary result).toList := by
  have bracket := not_mem_toDigits (c := '[') (by decide)
  have bracket' := not_mem_repr (c := '[') (by decide) (by decide) result.pages
  have slash' := not_mem_repr (c := '\\') (by decide) (by decide) result.pages
  rw [summary_eq]
  refine shows_styled tagName_success (tagless_of_bare (by simp [bracket])) (fun opened => ?_) _
  refine shows_plain (by simp [bracket']) (by simp [slash']) ?_
  exact shows_styled tagName_warning (tagless_of_bare (by simp [bracket]))
    (fun opened => shows_nil opened 0) opened

end Pipeline

open Pipeline

/-! ## What populators give by themselves -/

private theorem Leads.run_adapt {work : Crawling τ α} {outcome : Except Abort α}
    {before after : Course τ} (change : Abort → Abort)
    (leads : Leads work.run before outcome after) :
    Leads (ExceptT.adapt change work).run before (outcome.mapError change) after := by
  intro journal
  obtain ⟨journal', ran⟩ := leads journal
  refine ⟨journal', ?_⟩
  change (match work.run.run ⟨before, journal⟩ with
    | (outcome, activity) => (outcome.mapError change, activity)) = _
  rw [ran]

namespace SinglePopulator

variable (populator : SinglePopulator) (around : Surroundings τ)

/-- What reading the only document comes to as a run: a single record from a single page. -/
def ending (outcome : Except Abort Record) : Except RunFault CrawlResult :=
  match outcome with
  | .ok record => .ok { records := [record], pages := 1 }
  | .error (.fetch failure) => .error (.abort (.seed ⟨populator.url, failure.reason⟩))
  | .error abort => .error (.abort abort)

private theorem exists_leads_run (course : Course τ) :
    ∃ outcome after, Leads (populator.run around).run course outcome after := by
  have asked := Crawling.leads_ask around populator.url course
  cases answer : around.answerOn course populator.url with
  | crashed crash =>
    rw [answer] at asked
    exact ⟨_, _, Leads.run_bind asked (Leads.run_throw _ _)⟩
  | failed failure =>
    rw [answer] at asked
    exact ⟨_, _, Leads.run_bind asked (Leads.run_throw _ _)⟩
  | document html =>
    rw [answer] at asked
    exact ⟨_, _, Leads.run_bind asked (Leads.run_bind_same (Crawling.leads_reading _ _)
      fun record => Leads.run_bind (Crawling.leads_note _ _ _ _) (Leads.run_pure record _))⟩

end SinglePopulator

namespace Crawler

/-- What a crawl comes to as a run. -/
def ending (outcome : Except Abort (Option CrawlResult)) : Except RunFault CrawlResult :=
  match outcome with
  | .ok (some result) => .ok result
  | .ok none => .error .unfinished
  | .error abort => .error (.abort abort)

private theorem exists_leads_run (crawler : Crawler τ) (around : Surroundings τ) (limit : Nat)
    (course : Course τ) :
    ∃ outcome after, Leads (crawler.run around limit).run course outcome after := by
  obtain ⟨_, _, walk, _⟩ := crawler.walk_walks around limit 0 {} (started around course)
  exact ⟨_, _, crawler.leads_run around walk⟩

end Crawler

namespace Populator

/-- The URL that a populator begins with. -/
def url : Populator τ → String
  | .single reader => reader.url
  | .crawler walker => walker.baseUrl

/-- What is announced before a populator is run. -/
def announcement : Populator τ → String
  | .single reader => s!"[step]Populating {reader.url}...[/step]"
  | .crawler walker => s!"[step]Crawling links of {walker.baseUrl}...[/step]"

/-- The outcome of a populator that is run by itself, over at most `limit` pages, and the course
after it. -/
def alone (populator : Populator τ) (around : Surroundings τ) (limit : Nat)
    (activity : Activity τ) : Except RunFault CrawlResult × Course τ :=
  match populator with
  | .single reader =>
    let (outcome, after) := (reader.run around).runOn activity
    (reader.ending outcome, after.toCourse)
  | .crawler walker =>
    let (outcome, after) := (walker.run around limit).runOn activity
    (Crawler.ending outcome, after.toCourse)

private theorem announcement_eq (populator : Populator τ) :
    ∃ front : List Char, '[' ∉ front ∧ populator.announcement.toList =
      styled "step".toList (front ++ populator.url.toList ++ "...".toList) ++ [] := by
  cases populator with
  | single reader =>
    refine ⟨"Populating ".toList, by simp, ?_⟩
    change (s!"[step]Populating {reader.url}...[/step]").toList =
      styled "step".toList ("Populating ".toList ++ reader.url.toList ++ "...".toList) ++ []
    simp [styled, toString]
  | crawler walker =>
    refine ⟨"Crawling links of ".toList, by simp, ?_⟩
    change (s!"[step]Crawling links of {walker.baseUrl}...[/step]").toList =
      styled "step".toList
        ("Crawling links of ".toList ++ walker.baseUrl.toList ++ "...".toList) ++ []
    simp [styled, toString]

/-- A URL without a tag can be announced. -/
theorem announcement_shows {populator : Populator τ}
    (untagged : tagless populator.url.toList = true) (check : EventCheck) :
    Shows check [] 0 populator.announcement.toList := by
  obtain ⟨front, plain, written⟩ := populator.announcement_eq
  rw [written]
  exact shows_styled tagName_step
    (tagless_append_right (tagless_append_left plain untagged) (by simp) (by simp))
    (fun opened => shows_nil opened 0) []

end Populator

namespace Pipeline

section

variable {around : Surroundings Float} {console : Console} {limit : Nat}
  {course after : Course Float}

private theorem runs_runSingle {populator : SinglePopulator} {outcome : Except Abort Record}
    (prints : ∃ lines,
      console.printMarkup s!"[step]Populating {populator.url}...[/step]" = .ok lines)
    (leads : Leads (populator.run around).run course outcome after) :
    Runs (runSingle populator around console) course (populator.ending outcome) after := by
  refine Runs.bind (runs_report prints course) ?_
  cases outcome with
  | ok record => exact Runs.bind (runs_crawling (Leads.run_adapt _ leads)) (Runs.pure _ after)
  | error abort =>
    cases abort with
    | fetch failure => exact Runs.bind_error (runs_crawling (Leads.run_adapt _ leads))
    | seed failure => exact Runs.bind_error (runs_crawling (Leads.run_adapt _ leads))
    | selector what => exact Runs.bind_error (runs_crawling (Leads.run_adapt _ leads))
    | crash crash => exact Runs.bind_error (runs_crawling (Leads.run_adapt _ leads))

private theorem runs_runCrawler {crawler : Crawler Float}
    {outcome : Except Abort (Option CrawlResult)}
    (prints : ∃ lines,
      console.printMarkup s!"[step]Crawling links of {crawler.baseUrl}...[/step]" = .ok lines)
    (leads : Leads (crawler.run around limit).run course outcome after) :
    Runs (runCrawler crawler around console limit) course (Crawler.ending outcome) after := by
  refine Runs.bind (runs_report prints course) ?_
  have crawled := runs_crawling leads
  obtain abort | _ | result := outcome
  · exact Runs.bind_error crawled
  · exact Runs.bind crawled (Runs.throw _ after)
  · exact Runs.bind crawled (Runs.pure result after)

end

/-! ## Whole runs -/

variable {config : CrawlConfig} {around : Surroundings Float} {console : Console} {limit : Nat}

private theorem runs_prepare_error {fault : BuildFault} (refused : config.build = .error fault)
    (course : Course Float) :
    Runs (prepare config console) course (.error (.build fault)) course := by
  refine Runs.bind (runs_crawling (Crawling.leads_notes _ course)) ?_
  rw [refused]
  exact Runs.throw _ course

private theorem runs_prepare {populator : Populator Float} {diagnostics : List Diagnostic}
    (built : config.build = .ok (populator, diagnostics)) (course : Course Float) :
    Runs (prepare config console) course (.ok populator) course := by
  refine Runs.bind (runs_crawling (Crawling.leads_notes _ course)) ?_
  rw [built]
  have noted : Runs (modify fun progress => { progress with diagnostics } : Running Float Unit)
      course (.ok ()) course := fun progress stands => ⟨_, rfl, stands⟩
  refine Runs.bind noted ?_
  by_cases any : (!diagnostics.isEmpty) = true
  · rw [if_pos any]
    exact Runs.bind (runs_crawling (Crawling.leads_note _ _ _ _))
      (Runs.bind (runs_printLines _ course) (Runs.pure populator course))
  · rw [if_neg any]
    exact Runs.pure populator course

/-- The outcome of work of a run, and the course after it. -/
def outcomeOn (work : Running τ α) (progress : Progress τ) : Except RunFault α × Course τ :=
  let ran := work.run.run progress
  (ran.1, ran.2.activity.toCourse)

private theorem Runs.outcomeOn_eq {work : Running τ α} {progress : Progress τ}
    {outcome : Except RunFault α} {after : Course τ}
    (runs : Runs work progress.activity.toCourse outcome after) :
    outcomeOn work progress = (outcome, after) := by
  obtain ⟨progress', ran, stands⟩ := runs progress rfl
  rw [outcomeOn, ran, ← stands]

/-- A run does what its populator does, and reports on it. -/
private theorem runs_run (lawful : console.Lawful) {populator : Populator Float}
    {diagnostics : List Diagnostic} (built : config.build = .ok (populator, diagnostics))
    {course after : Course Float}
    {outcome : Except RunFault CrawlResult}
    (runs : Runs (match populator with
      | .single single => runSingle single around console
      | .crawler crawler => runCrawler crawler around console limit) course outcome after) :
    Runs (run config around { console } limit) course outcome after := by
  have last (result : CrawlResult) :
      Runs (do report (console.printMarkup (summary result)); return result) after
        (.ok result) after :=
    Runs.bind (runs_report (lawful.prints_of_shows (summary_shows result)) after)
      (Runs.pure result after)
  refine Runs.bind (runs_prepare built course) ?_
  cases populator with
  | single reader => exact Runs.bind_same runs last
  | crawler walker => exact Runs.bind_same runs last

/-- A run whose announcement is printed comes to what its populator alone comes to. -/
theorem outcomeOn_run (lawful : console.Lawful) {populator : Populator Float}
    {diagnostics : List Diagnostic} (built : config.build = .ok (populator, diagnostics))
    (prints : ∃ lines, console.printMarkup populator.announcement = .ok lines)
    (progress : Progress Float) :
    outcomeOn (run config around { console } limit) progress =
      populator.alone around limit progress.activity := by
  cases populator with
  | single reader =>
    obtain ⟨outcome, after, leads⟩ := reader.exists_leads_run around progress.activity.toCourse
    have runs : Runs (run config around { console } limit) _ _ after :=
      runs_run lawful built (runs_runSingle prints leads)
    rw [runs.outcomeOn_eq, Populator.alone, Crawling.runOn, ← leads.run_fst, ← leads.run_snd]
    rfl
  | crawler walker =>
    obtain ⟨outcome, after, leads⟩ :=
      walker.exists_leads_run around limit progress.activity.toCourse
    have runs : Runs (run config around { console } limit) _ _ after :=
      runs_run lawful built (runs_runCrawler prints leads)
    rw [runs.outcomeOn_eq, Populator.alone, Crawling.runOn, ← leads.run_fst, ← leads.run_snd]
    rfl

/-- A run whose configuration cannot be built ends with that fault, before anything is fetched. -/
theorem outcomeOn_run_refused {reporting : Reporting} {fault : BuildFault}
    (refused : config.build = .error fault) (progress : Progress Float) :
    outcomeOn (run config around reporting limit) progress =
      (.error (.build fault), progress.activity.toCourse) :=
  (Runs.bind_error (runs_prepare_error refused _)).outcomeOn_eq

end Pipeline

end PageHarvest
