import PageHarvest.CommandLine.Run
import PageHarvest.Proofs.Config.Amended
import PageHarvest.Proofs.Pipeline.Reporting
import PageHarvest.Proofs.Project.Alike
import PageHarvest.Proofs.Report.ReadingBack

/-! # How the program ends

The program breaks off where the journal file cannot be opened. Once it is open, the program ends as
reading and running the configuration ends. A fault of the configuration or the seed makes it end
with exit code 1, and a result with exit code 0, unless the console does not print a line. Whatever
the fault is, nothing is written but the journal. A result that is to be saved where a file may be
written can be read there, unless a number in it has too many digits.
-/

namespace PageHarvest.CommandLine

open Console Files Pipeline Report Text

variable {α β : Type} {setting : Setting}

/-! ## Work of the program -/

/-- What work of the program comes to, and the tree after it. -/
def Comes (work : Program α) (state : State) (outcome : Except Fault α) (tree : Tree) : Prop :=
  ∃ state', work.run.run state = (outcome, state') ∧ state'.tree = tree

namespace Comes

variable {work : Program α} {next : α → Program β} {state : State} {value : α}
  {outcome : Except Fault β} {tree tree' : Tree}

private theorem pure (value : α) (state : State) :
    Comes (Pure.pure value : Program α) state (.ok value) state.tree :=
  ⟨state, rfl, rfl⟩

private theorem throw (fault : Fault) (state : State) :
    Comes (MonadExcept.throw fault : Program α) state (.error fault) state.tree :=
  ⟨state, rfl, rfl⟩

private theorem bind_run {middle : State} (first : work.run.run state = (.ok value, middle))
    (second : Comes (next value) middle outcome tree) :
    Comes (work >>= next) state outcome tree := by
  obtain ⟨after, ran, stands⟩ := second
  exact ⟨after, (run_bind_of first).trans ran, stands⟩

private theorem bind (first : Comes work state (.ok value) tree)
    (second : ∀ middle : State, middle.tree = tree → Comes (next value) middle outcome tree') :
    Comes (work >>= next) state outcome tree' := by
  obtain ⟨middle, ran, stands⟩ := first
  exact bind_run ran (second middle stands)

private theorem bind_error {fault : Fault} (first : Comes work state (.error fault) tree) :
    Comes (work >>= next) state (.error fault) tree := by
  obtain ⟨middle, ran, stands⟩ := first
  exact ⟨middle, run_bind_of_error ran, stands⟩

end Comes

/-! ## Lines on the console -/

/-- What work comes to that first prints a line: the console has to print it. -/
def heard (console : Console) (markup : String) (outcome : Except Fault α) : Except Fault α :=
  match console.printMarkup markup with
  | .ok _ => outcome
  | .error fault => .error (.run (.console fault))

theorem run_running (work : Running Float α) (state : State) :
    (running work).run.run state =
      (.ok (work.run.run state.progress).1,
        { state with progress := (work.run.run state.progress).2 }) :=
  rfl

private theorem comes_say (markup : String) (state : State) :
    Comes (say setting markup) state (heard setting.console markup (.ok ())) state.tree := by
  refine Comes.bind_run (run_running _ state) ?_
  rw [heard]
  cases setting.console.printMarkup markup with
  | ok lines => exact Comes.pure () _
  | error fault => exact Comes.throw _ _

/-- What follows work that ends by printing a line needs the line to be printed. -/
theorem Comes.bind_heard {work : Program α} {next : α → Program β} {console : Console}
    {markup : String} {state : State} {value : α} {outcome : Except Fault β} {tree : Tree}
    (first : Comes work state (heard console markup (.ok value)) tree)
    (second : ∀ middle : State, middle.tree = tree → Comes (next value) middle outcome tree) :
    Comes (work >>= next) state (heard console markup outcome) tree := by
  unfold heard at first ⊢
  cases printed : console.printMarkup markup with
  | ok lines =>
    rw [printed] at first
    exact Comes.bind first second
  | error fault =>
    rw [printed] at first
    exact Comes.bind_error first

/-- What is heard of markup that shows something is the outcome of what follows it. -/
theorem heard_of_shows {console : Console} (lawful : console.Lawful) {markup : String}
    (shows : ∀ check, Shows check [] 0 markup.toList) (outcome : Except Fault α) :
    heard console markup outcome = outcome := by
  obtain ⟨lines, printed⟩ := lawful.prints_of_shows shows
  rw [heard, printed]

private theorem heard_styled {console : Console} (lawful : console.Lawful) {name text : List Char}
    {markup : String} (valid : TagName name) (untagged : tagless text = true)
    (written : markup.toList = styled name text ++ []) (outcome : Except Fault α) :
    heard console markup outcome = outcome := by
  refine heard_of_shows lawful (fun check => ?_) outcome
  rw [written]
  exact shows_styled valid untagged (fun opened => shows_nil opened 0) []

/-! ## Files -/

section

variable {ε : Type} {rename : ε → Fault} {work : ExceptT ε (StateM Tree) α} {state : State}
  {tree : Tree}

theorem run_filing (rename : ε → Fault) (work : ExceptT ε (StateM Tree) α) (state : State) :
    (filing rename work).run.run state = ((work.run.run state.tree).1.mapError rename,
      { state with tree := (work.run.run state.tree).2 }) := by
  rw [filing, run_get_bind]
  rcases work.run.run state.tree with ⟨fault | value, tree⟩ <;> rfl

private theorem comes_filing {value : α} (ran : work.run.run state.tree = (.ok value, tree)) :
    Comes (filing rename work) state (.ok value) tree :=
  ⟨{ state with tree }, by rw [run_filing, ran]; rfl, rfl⟩

end

/-! ## Faults -/

/-- What the program comes to after a fault: exit code 1 for one that the user is told about. -/
def Fault.outcome (console : Console) (fault : Fault) : Except Fault Nat :=
  match fault.told? with
  | some message => heard console s!"[bold red]✗ {message}[/bold red]" (.ok 1)
  | none => .error fault

theorem comes_giveUp (fault : Fault) (state : State) :
    Comes (giveUp setting fault) state (fault.outcome setting.console) state.tree := by
  rw [giveUp, Fault.outcome]
  cases fault.told? with
  | none => exact Comes.throw fault state
  | some message =>
    exact Comes.bind_heard (comes_say _ state) fun middle stands => stands ▸ Comes.pure 1 middle

/-- The line that names the journal file. -/
def logLine (tree : Tree) (log : Project.Log) : String :=
  s!"[dim]Log file: {tree.path log.place}[/dim]"

section

variable {console : Console} (lawful : console.Lawful)

include lawful

/-- A journal whose path holds no tag is told of without fault. -/
theorem heard_logLine {tree : Tree} {log : Project.Log}
    (untagged : tagless (tree.path log.place).toList = true) (outcome : Except Fault α) :
    heard console (logLine tree log) outcome = outcome :=
  heard_styled lawful tagName_dim (tagless_append_left (by simp) untagged)
    (by delta logLine; simp [styled, toString] :
      _ = styled "dim".toList ("Log file: ".toList ++ (tree.path log.place).toList) ++ []) _

end

private theorem get_run (state : State) :
    (get : Program State).run.run state = (.ok state, state) := rfl

section

variable {arguments : Arguments} {log : Project.Log} {config : CrawlConfig} {result : CrawlResult}
  {state : State}

private theorem comes_nameLog (log : Project.Log) (state : State) :
    Comes (do
      say setting s!"[dim]Log file: {(← get).tree.path log.place}[/dim]"
      return 0) state (heard setting.console (logLine state.tree log) (.ok 0)) state.tree := by
  refine Comes.bind_run (get_run state) ?_
  exact Comes.bind_heard (comes_say _ state) fun middle stands => stands ▸ Comes.pure 0 middle

/-- Where nothing is to be saved, the program tells of its journal and ends well. -/
theorem comes_conclude (unsaved : arguments.out = none) :
    Comes (conclude setting arguments log config result) state
      (heard setting.console (logLine state.tree log) (.ok 0)) state.tree := by
  rw [conclude, unsaved]
  exact comes_nameLog log state

section

variable {path : String} {location : Location} {tree : Tree}

variable (asked : arguments.out = some path)
  (leads : destination setting state.tree path config.baseUrl = .ok location)

include asked leads

end

theorem destination_alike {R : Content → Content → Prop} {place : Place} {tree tree' : Tree}
    (alike : Alike R place tree tree') (path base : String) :
    destination setting tree' path base = destination setting tree path base := by
  have output : Project.outputFile tree' setting.here base setting.now =
      Project.outputFile tree setting.here base setting.now := by
    rw [Project.outputFile, Project.outputFile, Project.output_alike alike]
  simp only [destination, output, alike.ofPlace]

end

/-! ## Runs -/

/-- The outcome of running a configuration. -/
def ranOutcome (setting : Setting) (arguments : Arguments) (config : CrawlConfig) :
    Except RunFault CrawlResult :=
  let reporting := { console := setting.console, tables := arguments.tables }
  ((Pipeline.run config setting.around reporting setting.pageLimit).run.run
    { activity := { startedAt := 0 } }).1

private theorem ranOutcome_of_noTables {arguments : Arguments} {config : CrawlConfig}
    (unprinted : arguments.tables = false) :
    ranOutcome setting arguments config =
      (outcomeOn (Pipeline.run config setting.around { console := setting.console }
        setting.pageLimit) { activity := { startedAt := 0 } }).1 := by
  rw [ranOutcome, unprinted]
  rfl

/-- What reading the configuration and running it comes to: the configuration that was run, and its
result. -/
def attempt (setting : Setting) (arguments : Arguments) (tree : Tree) :
    Except Fault (CrawlConfig × CrawlResult) :=
  match arguments.load setting tree with
  | .error fault => .error (.config fault)
  | .ok config =>
    match ranOutcome setting arguments (arguments.override config) with
    | .error fault => .error (.run fault)
    | .ok result => .ok (arguments.override config, result)

/-- A configuration is loaded from the bytes of the text that its file holds. -/
theorem load_of_read (arguments : Arguments) {tree : Tree} {text : String}
    (reads : tree.read (.ofPath setting.here arguments.config) = .ok (.text text)) :
    arguments.load setting tree =
      CrawlConfig.ofFile setting.room arguments.config (.ok (Utf8.encode text.toList)) := by
  rw [Arguments.load, reads, Except.map, Content.bytes, bytesOf, Utf8.toList_toUTF8]

/-- The ending of a program that comes to an exit code or a fault. -/
def Ending.of : Except Fault Nat → Ending
  | .ok code => .exit code
  | .error fault => .broken fault

section

variable {arguments : Arguments} {log : Project.Log} {config : CrawlConfig} {opened tree : Tree}
  {place : Place} {outcome : Except Fault Nat}

/-- Once a configuration was run and the journal written, the outcome of the run decides. -/
theorem exists_runConfig (takes : opened.Takes (.ofPlace opened log.place) place)
    (arguments : Arguments) (config : CrawlConfig) :
    ∃ content, ∃ middle : State, middle.tree = opened.put place (.file content) ∧
      ∀ outcome tree,
        Comes (match ranOutcome setting arguments config with
          | .error fault => giveUp setting (.run fault)
          | .ok result => conclude setting arguments log config result) middle outcome tree →
        Comes (runConfig setting arguments log config) { tree := opened } outcome tree := by
  let reporting := { console := setting.console, tables := arguments.tables : Reporting }
  let ran := (Pipeline.run config setting.around reporting setting.pageLimit).run.run
    { activity := { startedAt := 0 } }
  let state : State := {
    tree := opened, progress := ran.2
    fetcher := some ⟨arguments.timeout, setting.userAgent⟩ }
  obtain ⟨middle, writes, stands⟩ : Comes
      (filing .journal (log.write setting.stamp state.progress.activity.journal)) state (.ok ())
      _ := comes_filing (Project.run_write takes _ _)
  refine ⟨_, middle, stands, fun outcome tree rest => ?_⟩
  exact Comes.bind_run rfl (Comes.bind_run (run_running _ _) (Comes.bind_run (get_run state)
    (Comes.bind_run writes rest)))

/-- A run on an accepted line ends as carrying out its arguments does. -/
theorem run_of_execute {line : List String} {start : Tree} {outcome : Except Fault Nat}
    {state : State} (accepted : Arguments.read setting.logLevel line = .ok arguments)
    (ran : (execute setting arguments).run.run { tree := start } = (outcome, state)) :
    run setting line start = (.of outcome, state) := by
  rw [run, accepted]
  dsimp only
  rw [ran]
  cases outcome <;> rfl

section

variable {line : List String} {start : Tree}
  (accepted : Arguments.read setting.logLevel line = .ok arguments)

include accepted

private theorem run_of_comes_execute
    (comes : Comes (execute setting arguments) { tree := start } outcome tree) :
    (run setting line start).1 = .of outcome ∧ (run setting line start).2.tree = tree := by
  obtain ⟨state, ran, stands⟩ := comes
  rw [run_of_execute accepted ran]
  exact ⟨rfl, stands⟩

variable (opens : (Project.openLog setting.here setting.now arguments.logLevel).run.run start =
  (.ok log, opened))

include opens

private theorem run_of_comes
    (comes : Comes (match arguments.load setting opened with
      | .error fault => giveUp setting (.config fault)
      | .ok config => runConfig setting arguments log (arguments.override config))
      { tree := opened } outcome tree) :
    (run setting line start).1 = .of outcome ∧ (run setting line start).2.tree = tree := by
  refine run_of_comes_execute accepted ?_
  have opening : (filing .log (Project.openLog setting.here setting.now arguments.logLevel) :
      Program Project.Log).run.run { tree := start } = (.ok log, { tree := opened }) := by
    rw [run_filing, opens]
    rfl
  exact Comes.bind_run opening (Comes.bind_run (get_run _) comes)

/-- A configuration that cannot be loaded ends the program, and leaves the tree as the journal's
opening left it. -/
theorem run_of_refusal {refusal : ConfigFault}
    (loaded : arguments.load setting opened = .error refusal) :
    (run setting line start).1 = .of ((Fault.config refusal).outcome setting.console) ∧
      (run setting line start).2.tree = opened := by
  apply run_of_comes accepted opens
  rw [loaded]
  exact comes_giveUp _ _

/-- Under a configuration that was loaded, the program gives up or concludes as the run comes out,
with the entries of the run in the journal. -/
theorem run_of_load {config : CrawlConfig}
    (loaded : arguments.load setting opened = .ok config)
    (takes : opened.Takes (.ofPlace opened log.place) place) :
    ∃ content, ∃ middle : State, middle.tree = opened.put place (.file content) ∧
      ∀ outcome tree,
        Comes (match ranOutcome setting arguments (arguments.override config) with
          | .error fault => giveUp setting (.run fault)
          | .ok result => conclude setting arguments log (arguments.override config) result)
          middle outcome tree →
        (run setting line start).1 = .of outcome ∧ (run setting line start).2.tree = tree := by
  obtain ⟨content, middle, stands, rest⟩ :=
    exists_runConfig takes arguments (arguments.override config)
  refine ⟨content, middle, stands, fun outcome tree comes => run_of_comes accepted opens ?_⟩
  rw [loaded]
  exact rest outcome tree comes

end

end

/-- A setting in which every address holds the same page. -/
def sampleSetting : Setting where
  here := ["work"]
  now := { year := 2024, month := 5, day := 1, hour := 12, minute := 30, second := 0 }
  stamp := ""
  console := terminal 80
  room := 992
  around := {
    answer := fun _ _ => .document "<p>x</p>", reading := fun _ => 0
    exceeds := fun _ _ _ => false }
  pageLimit := 1

/-- A tree with a configuration file. -/
def sampleTree (content : String) : Tree where
  entries := [(["work"], .folder), (["work", "crawl.json"], .file content)]

/-- The members of a configuration of a single page. -/
def sampleMembers : List (String × Json) := [("base_url", .string "https://x.test/a")]

def sampleText : String := "\x7b\"base_url\":\"https://x.test/a\"\x7d"

/-- A tree with the configuration of a single page. -/
def samplePage : Tree := sampleTree sampleText

def sampleLog : Project.Log := ⟨["work", ".pathcrawl", "logs", "run_20240501_123000.log"], 20⟩

/-- The same tree once the journal file is open. -/
def sampleOpened : Tree where
  entries := samplePage.entries ++ [
    (["work", ".pathcrawl"], .folder), (["work", ".pathcrawl", "logs"], .folder),
    (["work", ".pathcrawl", "output"], .folder),
    (["work", ".pathcrawl", ".gitignore"], .file Project.ignoreText),
    (sampleLog.place, .file "")]

def sampleArguments : Arguments := { config := "crawl.json", out := some "new/r.json" }

def sampleRecorded : CrawlResult where
  records := [{ url := some "https://x.test/a" }]
  pages := 1

theorem sample_opens :
    (Project.openLog sampleSetting.here sampleSetting.now sampleArguments.logLevel).run.run
        samplePage =
      (.ok sampleLog, sampleOpened) := by
  with_unfolding_all rfl

theorem sample_ran :
    ranOutcome sampleSetting sampleArguments { baseUrl := "https://x.test/a" } =
      .ok sampleRecorded := by
  have built : ({ baseUrl := "https://x.test/a" } : CrawlConfig).build =
      .ok (.single ⟨"https://x.test/a", {}⟩, []) := by with_unfolding_all rfl
  have lawful := terminal_lawful 80 checkBrackets
  rw [ranOutcome_of_noTables rfl, sampleSetting, outcomeOn_run lawful built
    (lawful.prints_of_shows (Populator.announcement_shows (by decide +kernel)))]
  decide +kernel

theorem sample_flat : CrawlConfig.FlatText sampleSetting.room sampleText sampleMembers := by
  refine .of_write (.object ?_ ?_) (.object ?_) rfl (by decide +kernel) (by decide +kernel)
  · decide
  · exact List.forall_mem_singleton.mpr (.string _)
  · exact List.forall_mem_singleton.mpr (.string _)

theorem sample_passes : CrawlConfig.checkMembers sampleMembers =
    .sound { baseUrl := "https://x.test/a" } :=
  rfl

end PageHarvest.CommandLine
