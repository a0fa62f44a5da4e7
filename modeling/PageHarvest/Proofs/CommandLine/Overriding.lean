import PageHarvest.Proofs.CommandLine.Together
import PageHarvest.Proofs.Config.Amended

/-! # What the command line says instead

The command line may ask for links one by one, or for another number of workers. That is the same as
if the configuration file asked for it, as long as there is a worker. But where the file is refused
for asking for too few workers, the command line is not checked: no workers at all count as nothing
said, and fewer make a crawler break off.
-/

namespace PageHarvest.CommandLine

open Console Files Pipeline Report Text Validate

/-! ## Runs that read one configuration -/

section

variable {setting : Setting} {arguments : Arguments} {place : Place} {content other : String}

/-- Two contents that begin with two texts and go on alike, or one content. -/
def Continued (content other : String) (held held' : Content) : Prop :=
  held' = held ∨ ∃ added, held = .text (content ++ added) ∧ held' = .text (other ++ added)

/-- Two texts, or the text of the file that keeps the folder of the program out of version
control. -/
def Untouched (content other : String) (held held' : Content) : Prop :=
  held = .text content ∧ held' = .text other ∨
    held = .text Project.ignoreText ∧ held' = .text Project.ignoreText

private theorem Untouched.continued {held held' : Content}
    (untouched : Untouched content other held held') : Continued content other held held' := by
  rcases untouched with ⟨rfl, rfl⟩ | ⟨rfl, rfl⟩
  · exact .inr ⟨"", by rw [String.append_empty], by rw [String.append_empty]⟩
  · exact .inl rfl

private theorem Continued.append {held held' : Content}
    (continued : Continued content other held held')
    (more : String) : Continued content other (held.append more) (held'.append more) := by
  rcases continued with rfl | ⟨added, rfl, rfl⟩
  · exact .inl rfl
  · exact .inr ⟨added ++ more, congrArg Content.text String.append_assoc,
      congrArg Content.text String.append_assoc⟩

/-- Trees in which the configuration file stands at a place, as it was before, if it is not the file
that keeps the folder of the program out of version control. -/
def Opened (setting : Setting) (arguments : Arguments) (place : Place) (content other : String)
    (tree tree' : Tree) : Prop :=
  Alike (Untouched content other) place tree tree' ∧
    tree.find (.ofPath setting.here arguments.config) = .ok place

private theorem keeps_opened (level : String) :
    Keeps (Opened setting arguments place content other)
      (Project.openLog setting.here setting.now level)
      (Project.openLog setting.here setting.now level) := by
  rintro tree tree' ⟨alike, leads⟩
  obtain ⟨outcome, left, left', ran, ran', alike'⟩ := Project.keeps_openLog
    (R := Untouched content other) (.inr ⟨rfl, rfl⟩) setting.here setting.now level alike
  have grows := Project.within_openLog setting.here setting.now level tree
  rw [ran] at grows
  exact ⟨outcome, left, left', ran, ran', alike', grows.find leads⟩

/-- The file that keeps the folder of the program out of version control is no configuration. -/
theorem ofFile_ignoreText (room : Nat) (path : String) : ∃ fault,
    CrawlConfig.ofFile room path (.ok (Utf8.encode Project.ignoreText.toList)) = .error fault := by
  have decoded := Utf8.decode_eq_ok_iff.mpr (Eq.refl (Utf8.encode Project.ignoreText.toList))
  cases read : Json.readWithin room (unifyLineEnds Project.ignoreText.toList) with
  | error fault =>
    refine ⟨.notJson path fault, ?_⟩
    simp only [CrawlConfig.ofFile, Except.mapError, decoded, read, bind, Except.bind]
  | ok json =>
    have refused : (Json.readWithin room (unifyLineEnds Project.ignoreText.toList)).isOk = false :=
      rfl
    rw [read] at refused
    cases refused

/-- The same arguments, but for what the command line says instead of the configuration. -/
def Arguments.saying (arguments : Arguments) (sequential : Bool) (workers : Option Int) :
    Arguments :=
  { arguments with sequential, workers }

variable {sequential : Bool} {workers : Option Int} {config config' : CrawlConfig}

/-- What is executed is the same where the configuration and what the command line says instead of
it come to the same. -/
theorem mirrors_execute
    (asFile : (Location.ofPath setting.here arguments.config).endsAsFolder = false)
    (loads : CrawlConfig.ofFile setting.room arguments.config (.ok (Utf8.encode content.toList)) =
      .ok config)
    (loads' : CrawlConfig.ofFile setting.room arguments.config (.ok (Utf8.encode other.toList)) =
      .ok config')
    (same : (arguments.saying sequential workers).override config = arguments.override config') :
    Mirrors (Together (Opened setting arguments place content other))
      (EndsAlike (Continued content other) place setting arguments
        (arguments.override config').baseUrl)
      (execute setting (arguments.saying sequential workers)) (execute setting arguments) := by
  have ends (state state' : State)
      (together : Together (Opened setting arguments place content other) state state') :
      Together (Alike (Continued content other) place) state state' :=
    ⟨together.tree.1.mono fun _ _ => Untouched.continued, together.progress, together.fetcher⟩
  refine Mirrors.bind (keeps_filing (keeps_opened arguments.logLevel))
    (fun fault state state' together => (ends state state' together).endsAlike nofun) fun log => ?_
  refine Mirrors.get_bind fun state state' together => ?_
  obtain ⟨alike, leads⟩ := together.tree
  obtain ⟨held, held', stands, stands', found⟩ := alike.here
  have reads := (Tree.read_eq_ok leads).mpr ⟨stands, asFile⟩
  have reads' := (Tree.read_eq_ok ((alike.find _).trans leads)).mpr ⟨stands', asFile⟩
  have load {text : String} (is : held = .text text) :
      (arguments.saying sequential workers).load setting state.tree =
        CrawlConfig.ofFile setting.room arguments.config (.ok (Utf8.encode text.toList)) :=
    load_of_read (arguments.saying sequential workers) (is ▸ reads)
  have load' {text : String} (is : held' = .text text) : arguments.load setting state'.tree =
      CrawlConfig.ofFile setting.room arguments.config (.ok (Utf8.encode text.toList)) :=
    load_of_read arguments (is ▸ reads')
  rcases found with ⟨is, is'⟩ | ⟨is, is'⟩ <;> rw [load is, load' is']
  · rw [loads, loads']
    dsimp only
    rw [same]
    exact mirrors_runConfig (fun _ => .inl rfl) (fun _ _ more continued => continued.append more)
      (ends state state' together)
  · obtain ⟨fault, refused⟩ := ofFile_ignoreText setting.room arguments.config
    rw [refused]
    obtain ⟨outcome, left, left', ran, ran', kept, apart⟩ :=
      mirrors_giveUp setting (.config fault) (ends state state' together)
    exact ⟨outcome, left, left', ran, ran', kept.endsAlike apart⟩

end

/-! ## Too few workers -/

/-- The tag in the report on too few workers names a type and a value, and holds no bracket. -/
private theorem fewWorkersTag_bare (count : Int) :
    ∃ parameter, (CrawlConfig.fewWorkersTag count).toList = "type".toList ++ '=' :: parameter ∧
      ∀ d ∈ parameter, endsTag d = false := by
  have bare {c : Char} (ends : endsTag c = true) :
      c ∉ (shortened (toString count)).toList := by
    have mark : c ≠ '.' ∧ c ≠ '-' ∧ c.isDigit = false := by
      simp only [endsTag, Bool.or_eq_true, decide_eq_true_eq] at ends
      rcases ends with rfl | rfl <;> decide
    exact fun among => not_mem_repr mark.2.2 mark.2.1 count (mem_of_mem_shortened among mark.1)
  refine ⟨"greater_than_equal".toList ++ ", ".toList ++ "input_value=".toList ++
    (shortened (toString count)).toList ++ ", input_type=".toList ++ "int".toList, ?_, ?_⟩
  · delta CrawlConfig.fewWorkersTag
    simp only [String.toList_append]
    rfl
  · intro d among
    by_contra ends
    rw [Bool.not_eq_false] at ends
    simp only [List.mem_append, bare ends, or_false] at among
    revert among
    simp only [endsTag, Bool.or_eq_true, decide_eq_true_eq] at ends
    rcases ends with rfl | rfl <;> decide

/-- The word in front of the type of an issue is no style. -/
theorem tagName_type : TagName "type".toList := by
  constructor <;> decide +kernel

private theorem read_type (rest : List (List Char)) :
    Style.read {} ("type".toList :: rest) = .error .unknown := by
  have small : lower "type".toList = "type".toList := by decide +kernel
  have apart : "type".toList ≠ "on".toList ∧ "type".toList ≠ "not".toList ∧
      "type".toList ≠ "link".toList := by decide
  have featureless : feature? (String.ofList "type".toList) = none := by decide +kernel
  have colourless : checkColour "type".toList = .error .unknown := by decide +kernel
  unfold Style.read
  simp only [small, apart, featureless, colourless, if_false]
  rfl

private theorem lookUp_type (parameter : List Char) : lookUp "type".toList parameter = .ok () := by
  have word : blankSeparated "type".toList = ["type".toList] := by decide +kernel
  rw [lookUp, word, List.singleton_append, read_type]

/-- The user can be told of too few workers, unless there is a tag in the path of the file. -/
theorem outcome_fewWorkers {console : Console} (lawful : console.Lawful) {path : String}
    (untagged : tagless path.toList = true) {members : List (String × Json)} {count : Int}
    (given : members.lookup "workers" = some (.int count)) :
    let invalid : Invalid := ⟨"CrawlConfig", [CrawlConfig.fewWorkers]⟩
    (Fault.config (.refused path (.invalid invalid) (invalid.report (.object members)))).outcome
      console = .ok 1 := by
  intro invalid
  obtain ⟨parameter, tag, bare⟩ := fewWorkersTag_bare count
  let front := "✗ ".toList ++ ("Invalid config ".toList ++ path.toList ++
    (": " ++ CrawlConfig.fewWorkersFront).toList)
  have plain : tagless front = true := by
    refine tagless_append_left (by decide) ?_
    rw [List.append_assoc]
    refine tagless_append_left (by decide) ?_
    exact tagless_append_right untagged (by decide +kernel) (by decide +kernel)
  have told : (Fault.config (.refused path (.invalid invalid)
      (invalid.report (.object members)))).told? =
        some s!"Invalid config {path}: {invalid.report (.object members)}" := rfl
  have first : "[bold red]✗ " = "[" ++ "bold red" ++ "]" ++ "✗ " := by decide
  have last : "[/bold red]" = "[" ++ "/" ++ "bold red" ++ "]" := by decide
  have bracket : "[".toList = ['['] ∧ "]".toList = [']'] ∧ "/".toList = ['/'] := by decide
  rw [Fault.outcome, told]
  dsimp only
  rw [CrawlConfig.report_fewWorkers given]
  have written (message : String) (inner : message.toList =
      "Invalid config ".toList ++ path.toList ++ (": " ++ CrawlConfig.fewWorkersFront).toList ++
        '[' :: ("type".toList ++ '=' :: parameter ++ [']'])) :
      (s!"[bold red]✗ {message}[/bold red]").toList = styled "bold red".toList
        (front ++ '[' :: ("type".toList ++ '=' :: parameter ++ [']'])) ++ [] := by
    rw [first, last]
    simp only [toString, String.toList_append, bracket, inner, styled, front, List.append_assoc,
      List.cons_append, List.nil_append, List.append_nil]
  refine heard_of_shows lawful (fun check => ?_) _
  rw [written _ ?_]
  · exact shows_styled_opening tagName_boldRed tagName_type plain bare (lookUp_type parameter)
      (fun opened => shows_nil opened 0) []
  · simp only [toString, String.toList_append, bracket, tag, List.append_assoc, List.cons_append,
      List.nil_append]

/-! ## Configurations with too few workers -/

section

variable {config config' : CrawlConfig} {count : Int}

/-- A configuration that is built into a crawler. -/
def BuildsCrawler (config : CrawlConfig) : Prop :=
  ∃ crawler diagnostics, config.build = .ok (.crawler crawler, diagnostics)

/-- With too few workers no crawler is built, and everything else as it is with enough. -/
theorem build_fewWorkers (few : count < 1) :
    (BuildsCrawler config → { config with workers := count }.build = .error .workersRefused) ∧
      (¬BuildsCrawler config → { config with workers := count }.build = config.build) := by
  have none : ¬0 < count.toNat := by omega
  have links : { config with workers := count }.buildLinkPath = config.buildLinkPath := rfl
  have paging : { config with workers := count }.buildPaging = config.buildPaging := rfl
  rw [BuildsCrawler, CrawlConfig.build, CrawlConfig.build]
  dsimp only
  cases PopulatorKind.ofText? config.populator with
  | none => exact ⟨by rintro ⟨_, _, ⟨⟩⟩, fun _ => rfl⟩
  | some kind =>
    cases kind with
    | single => exact ⟨by rintro ⟨_, _, ⟨⟩⟩, fun _ => rfl⟩
    | multiple =>
      simp only [CrawlConfig.buildCrawler, links, paging, dif_neg none]
      cases config.buildLinkPath with
      | error fault => exact ⟨by rintro ⟨_, _, ⟨⟩⟩, fun _ => rfl⟩
      | ok path =>
        cases config.buildPaging with
        | error fault => exact ⟨by rintro ⟨_, _, ⟨⟩⟩, fun _ => rfl⟩
        | ok pages =>
          refine ⟨fun _ => rfl, fun unbuilt => ?_⟩
          by_cases some : 0 < config.workers.toNat
          · refine absurd ?_ unbuilt
            simp only [bind, Except.bind, dif_pos some]
            exact ⟨_, _, rfl⟩
          · simp only [bind, Except.bind, dif_neg some]

/-- A run looks at a configuration only to build it. -/
theorem runConfig_congr (setting : Setting) (arguments : Arguments) (log : Project.Log)
    (journal : config'.buildJournal = config.buildJournal) (build : config'.build = config.build)
    (baseUrl : config'.baseUrl = config.baseUrl) :
    runConfig setting arguments log config' = runConfig setting arguments log config := by
  have runs (around : Surroundings Float) (reporting : Reporting) (limit : Nat) :
      Pipeline.run config' around reporting limit = Pipeline.run config around reporting limit := by
    simp only [Pipeline.run, prepare, journal, build]
  have concludes (result : CrawlResult) :
      conclude setting arguments log config' result =
        conclude setting arguments log config result := by
    simp only [conclude, baseUrl]
  simp only [runConfig, runs, concludes]

end

/-! ## Runs that the command line changes -/

/-- No workers at all count as nothing said. -/
theorem override_saying (arguments : Arguments) (count : Int) (config : CrawlConfig) :
    (arguments.saying arguments.sequential (some count)).override config =
      { arguments.override config with
        workers := if count = 0 then config.workers else count } := by
  by_cases none : count = 0
  · subst none
    rfl
  · simp only [Arguments.override, Arguments.saying, if_neg none]

/-- A configuration file in the flat layout, to which the command line leads. -/
structure ConfigFile (setting : Setting) (arguments : Arguments) (tree : Tree) (place : Place)
    (content : String) (members : List (String × Json)) (config : CrawlConfig) : Prop where
  leads : tree.find (.ofPath setting.here arguments.config) = .ok place
  reads : tree.read (.ofPath setting.here arguments.config) = .ok (.text content)
  holds : CrawlConfig.FlatText setting.room content members
  passes : CrawlConfig.checkMembers members = .sound config

/-- Two runs that come to the same and print the same, and whose trees differ in the configuration
file only, unless the result is saved there. A result that is saved is the same. -/
structure SameCourse (setting : Setting) (arguments : Arguments) (base : String) (place : Place)
    (content other : String) (ended ended' : Ending × State) : Prop where
  ending : ended'.1 = ended.1
  together : Together (Alike (Continued content other) place) ended.2 ended'.2
  saved : ended.1 = .exit 0 → ∀ path, arguments.out = some path →
    SavedAlike setting path base ended.2.tree ended'.2.tree

section

variable {setting : Setting} {arguments : Arguments} {line plain : List String} {start : Tree}
  {place : Place} {content : String} {members : List (String × Json)} {config : CrawlConfig}
  (file : ConfigFile setting arguments start place content members config)

include file

private theorem ConfigFile.opened (other : String) :
    Opened setting arguments place content other start (start.put place (.file other)) := by
  obtain ⟨stands, -⟩ := (Tree.read_eq_ok file.leads).mp file.reads
  have bare : start.at? place ≠ some .folder := by simp [stands]
  refine ⟨⟨rfl, fun another apart => ?_, content, other, stands, ?_, .inl ⟨rfl, rfl⟩⟩, file.leads⟩
  · rw [Tree.at?_put bare, if_neg apart]
  · rw [Tree.at?_put bare, if_pos rfl]

private theorem ConfigFile.loads :
    CrawlConfig.ofFile setting.room arguments.config (.ok (Utf8.encode content.toList)) =
      .ok config :=
  file.holds.loads file.passes _

private theorem ConfigFile.sameCourse {sequential : Bool} {workers : Option Int}
    {config' : CrawlConfig}
    (accepted : Arguments.read setting.logLevel plain = .ok arguments)
    (accepted' : Arguments.read setting.logLevel line = .ok (arguments.saying sequential workers))
    {other : String}
    (loads : CrawlConfig.ofFile setting.room arguments.config (.ok (Utf8.encode other.toList)) =
      .ok config')
    (same : (arguments.saying sequential workers).override config = arguments.override config') :
    SameCourse setting arguments config'.baseUrl place content other (run setting line start)
      (run setting plain (start.put place (.file other))) := by
  obtain ⟨-, asFile⟩ := (Tree.read_eq_ok file.leads).mp file.reads
  obtain ⟨outcome, left, left', ran, ran', ends⟩ := mirrors_execute asFile file.loads loads same
    (⟨file.opened other, rfl, rfl⟩ : Together _ { tree := start }
      { tree := start.put place (.file other) })
  rw [run_of_execute accepted' ran, run_of_execute accepted ran']
  refine ⟨rfl, ⟨ends.tree.1, ends.progress, ends.fetcher⟩, fun exits => ends.tree.2 ?_⟩
  cases outcome with
  | error fault => cases exits
  | ok code => exact congrArg Except.ok (Ending.exit.inj exits)

/-- Where the configurations that are run make no difference, the runs are the same. -/
theorem ConfigFile.run_untouched {sequential : Bool} {workers : Option Int}
    (accepted : Arguments.read setting.logLevel plain = .ok arguments)
    (accepted' : Arguments.read setting.logLevel line = .ok (arguments.saying sequential workers))
    (runs : ∀ log, runConfig setting (arguments.saying sequential workers) log
        ((arguments.saying sequential workers).override config) =
      runConfig setting arguments log (arguments.override config)) :
    run setting line start = run setting plain start := by
  obtain ⟨stands, asFile⟩ := (Tree.read_eq_ok file.leads).mp file.reads
  have alike : Alike (Untouched content content) place start start :=
    ⟨rfl, fun _ _ => rfl, content, content, stands, stands, .inl ⟨rfl, rfl⟩⟩
  have opening : Keeps (Together (Opened setting arguments place content content))
      (filing .log (Project.openLog setting.here setting.now arguments.logLevel))
      (filing .log (Project.openLog setting.here setting.now arguments.logLevel)) :=
    keeps_filing (keeps_opened arguments.logLevel)
  obtain ⟨outcome, left, left', ran, -, opened⟩ :=
    opening (⟨⟨alike, file.leads⟩, rfl, rfl⟩ : Together _ { tree := start } { tree := start })
  have ran' : (filing .log (Project.openLog setting.here setting.now
      (arguments.saying sequential workers).logLevel)).run.run { tree := start } =
        (outcome, left) := ran
  have same : (execute setting (arguments.saying sequential workers)).run.run { tree := start } =
      (execute setting arguments).run.run { tree := start } := by
    rw [execute, execute]
    cases outcome with
    | error fault => rw [run_bind_of_error ran, run_bind_of_error ran']
    | ok log =>
      rw [run_bind_of ran, run_bind_of ran', run_get_bind, run_get_bind]
      obtain ⟨held, held', stands, -, found⟩ := opened.tree.1.here
      have reads := (Tree.read_eq_ok opened.tree.2).mpr ⟨stands, asFile⟩
      have load' : (arguments.saying sequential workers).load setting left.tree =
          arguments.load setting left.tree := rfl
      rw [load']
      rcases found with ⟨rfl, -⟩ | ⟨rfl, -⟩ <;> rw [load_of_read arguments reads]
      · rw [file.loads]
        dsimp only
        rw [runs]
      · obtain ⟨fault, refused⟩ := ofFile_ignoreText setting.room arguments.config
        rw [refused]
  rw [run_of_execute accepted' same, run_of_execute accepted rfl]

/-- A configuration from which nothing can be built ends the run. -/
theorem ConfigFile.run_of_unbuilt {log : Project.Log} {opened : Tree} {fault : BuildFault}
    {sequential : Bool} {workers : Option Int}
    (accepted : Arguments.read setting.logLevel line = .ok (arguments.saying sequential workers))
    (opens : (Project.openLog setting.here setting.now arguments.logLevel).run.run start =
      (.ok log, opened))
    (reads : opened.read (.ofPath setting.here arguments.config) = .ok (.text content))
    (unbuilt : ((arguments.saying sequential workers).override config).build = .error fault) :
    (run setting line start).1 = .of ((Fault.run (.build fault)).outcome setting.console) := by
  have loaded : (arguments.saying sequential workers).load setting opened = .ok config :=
    (load_of_read (arguments.saying sequential workers) reads).trans file.loads
  have ran : ranOutcome setting (arguments.saying sequential workers)
      ((arguments.saying sequential workers).override config) = .error (.build fault) :=
    congrArg Prod.fst (outcomeOn_run_refused unbuilt _)
  obtain ⟨there, -, -, -, takes⟩ := Project.takes_of_openLog opens
  obtain ⟨text, middle, -, rest⟩ := run_of_load accepted opens loaded takes
  rw [ran] at rest
  exact (rest _ _ (comes_giveUp _ middle)).1

/-- A configuration file that asks for too few workers is refused. -/
theorem ConfigFile.run_fewWorkers (lawful : setting.console.Lawful) {log : Project.Log}
    {opened : Tree} {other : String} {others : List (String × Json)} {count : Int}
    (accepted : Arguments.read setting.logLevel plain = .ok arguments)
    (opens : (Project.openLog setting.here setting.now arguments.logLevel).run.run start =
      (.ok log, opened))
    (reads : opened.read (.ofPath setting.here arguments.config) = .ok (.text content))
    (holds : CrawlConfig.FlatText setting.room other others)
    (amends : CrawlConfig.Amends members others "workers" (.int count)) (few : count < 1)
    (untagged : tagless arguments.config.toList = true) :
    (run setting plain (start.put place (.file other))).1 = .exit 1 := by
  obtain ⟨outcome, left, left', ran, ran', alike, leads⟩ :=
    keeps_opened arguments.logLevel (file.opened other)
  obtain ⟨same, rfl⟩ := Prod.mk.inj (opens.symm.trans ran)
  obtain rfl := same
  obtain ⟨held, held', stands, stands', found⟩ := alike.here
  obtain ⟨kept, asFile⟩ := (Tree.read_eq_ok leads).mp reads
  obtain rfl : held = .text content := by simpa using stands.symm.trans kept
  rcases found with ⟨-, rfl⟩ | ⟨ignored, -⟩
  · have gives := CrawlConfig.checkMembers_eq_sound_iff.mp file.passes
    have refused := load_of_read arguments
      ((Tree.read_eq_ok ((alike.find _).trans leads)).mpr ⟨stands', asFile⟩)
    rw [holds.ofFile_eq, gives.checkMembers_fewWorkers amends few] at refused
    rw [(run_of_refusal accepted ran' refused).1, outcome_fewWorkers lawful untagged amends.lookup]
    rfl
  · obtain rfl := Content.text.inj ignored
    obtain ⟨fault, refused⟩ := ofFile_ignoreText setting.room arguments.config
    cases refused.symm.trans file.loads

variable {other : String} {others : List (String × Json)} {count : Int}

/-- Links one by one, as the command line or as the file has it. -/
theorem ConfigFile.sameCourse_sequential
    (accepted : Arguments.read setting.logLevel plain = .ok arguments)
    (accepted' : Arguments.read setting.logLevel line = .ok { arguments with sequential := true })
    (holds : CrawlConfig.FlatText setting.room other others)
    (amends : CrawlConfig.Amends members others "parallel" (.bool false)) :
    SameCourse setting arguments config.baseUrl place content other (run setting line start)
      (run setting plain (start.put place (.file other))) := by
  have gives := CrawlConfig.checkMembers_eq_sound_iff.mp file.passes
  have said : Arguments.read setting.logLevel line =
      .ok (arguments.saying true arguments.workers) := accepted'
  have loads := holds.loads (gives.checkMembers_parallel amends) arguments.config
  have same : (arguments.saying true arguments.workers).override config =
      arguments.override { config with parallel := false } := by
    simp only [Arguments.override, Arguments.saying, Bool.not_true, Bool.and_false,
      Bool.false_and]
  exact (file.sameCourse accepted said loads same :)

section

variable (unsaid : arguments.workers = none)
  (accepted' : Arguments.read setting.logLevel line = .ok { arguments with workers := some count })

include unsaid accepted'

/-- A number of workers, as the command line or as the file has it. -/
theorem ConfigFile.sameCourse_workers
    (accepted : Arguments.read setting.logLevel plain = .ok arguments)
    (holds : CrawlConfig.FlatText setting.room other others)
    (amends : CrawlConfig.Amends members others "workers" (.int count)) (enough : 1 ≤ count) :
    SameCourse setting arguments config.baseUrl place content other (run setting line start)
      (run setting plain (start.put place (.file other))) := by
  have gives := CrawlConfig.checkMembers_eq_sound_iff.mp file.passes
  have said : Arguments.read setting.logLevel line =
      .ok (arguments.saying arguments.sequential (some count)) := accepted'
  have loads := holds.loads (gives.checkMembers_workers amends enough) arguments.config
  have same : (arguments.saying arguments.sequential (some count)).override config =
      arguments.override { config with workers := count } := by
    rw [override_saying, if_neg (by omega)]
    simp only [Arguments.override, unsaid]
  exact (file.sameCourse accepted said loads same :)

/-- No workers on the command line count as nothing said, and fewer make no difference where there
is no crawler. -/
theorem ConfigFile.run_idle
    (accepted : Arguments.read setting.logLevel plain = .ok arguments)
    (idle : count = 0 ∨ count < 0 ∧ ¬BuildsCrawler (arguments.override config)) :
    run setting line start = run setting plain start := by
  have said : Arguments.read setting.logLevel line =
      .ok (arguments.saying arguments.sequential (some count)) := accepted'
  refine file.run_untouched accepted said fun log => ?_
  rw [override_saying]
  rcases idle with none | ⟨few, unbuilt⟩
  · have kept : arguments.override config =
        { arguments.override config with workers := config.workers } := by
      simp only [Arguments.override, unsaid]
    rw [if_pos none, ← kept]
    rfl
  · rw [if_neg (by omega)]
    exact runConfig_congr setting arguments log rfl
      ((build_fewWorkers (by omega)).2 unbuilt) rfl

end

/-- Fewer than no workers on the command line break a crawler off. -/
theorem ConfigFile.run_broken {log : Project.Log} {opened : Tree}
    (accepted : Arguments.read setting.logLevel line = .ok { arguments with workers := some count })
    (opens : (Project.openLog setting.here setting.now arguments.logLevel).run.run start =
      (.ok log, opened))
    (reads : opened.read (.ofPath setting.here arguments.config) = .ok (.text content))
    (few : count < 0) (builds : BuildsCrawler (arguments.override config)) :
    (run setting line start).1 = .broken (.run (.build .workersRefused)) := by
  have said : Arguments.read setting.logLevel line =
      .ok (arguments.saying arguments.sequential (some count)) := accepted
  have unbuilt : ((arguments.saying arguments.sequential (some count)).override config).build =
      .error .workersRefused := by
    rw [override_saying, if_neg (by omega)]
    exact (build_fewWorkers (by omega)).1 builds
  exact file.run_of_unbuilt said opens reads unbuilt

end

/-- A result that is not saved ends the run with exit code 0. -/
theorem run_of_result {setting : Setting} (lawful : setting.console.Lawful)
    {arguments : Arguments} {line : List String} {start opened : Tree} {log : Project.Log}
    {config : CrawlConfig} {result : CrawlResult}
    (accepted : Arguments.read setting.logLevel line = .ok arguments)
    (opens : (Project.openLog setting.here setting.now arguments.logLevel).run.run start =
      (.ok log, opened))
    (loaded : arguments.load setting opened = .ok config)
    (ran : ranOutcome setting arguments (arguments.override config) = .ok result)
    (unsaved : arguments.out = none) (named : tagless (opened.path log.place).toList = true) :
    (run setting line start).1 = .exit 0 := by
  obtain ⟨place, -, -, -, takes⟩ := Project.takes_of_openLog opens
  obtain ⟨content, middle, stands, rest⟩ := run_of_load accepted opens loaded takes
  rw [ran] at rest
  have same : logLine middle.tree log = logLine opened log := by rw [stands]; rfl
  rw [(rest _ _ (comes_conclude unsaved)).1, same, heard_logLine lawful named]
  rfl

/-! ## Sample configurations -/

private theorem sample_plain :
    Arguments.read sampleSetting.logLevel ["-c", "crawl.json"] =
      .ok { config := "crawl.json" } := by
  with_unfolding_all rfl

private theorem sample_file : ConfigFile sampleSetting { config := "crawl.json" } samplePage
    ["work", "crawl.json"] sampleText sampleMembers { baseUrl := "https://x.test/a" } where
  leads := by decide +kernel
  reads := by decide +kernel
  holds := sample_flat
  passes := sample_passes

private theorem sample_holds {name text : String} {value : Json}
    (apart : name ∉ ["base_url", "meta"])
    (tidy : Json.Tidy value) (brief : Json.Brief value)
    (fits : (unifyLineEnds text.toList).length ≤ sampleSetting.room)
    (written : unifyLineEnds text.toList =
      Json.write (.object (sampleMembers ++ [(name, value)]))) :
    CrawlConfig.FlatText sampleSetting.room text (sampleMembers ++ [(name, value)]) := by
  rw [List.mem_cons, List.mem_singleton, not_or] at apart
  refine .of_write (.object ?_ ?_) (.object ?_) ?_ written fits
  · simpa [sampleMembers] using Ne.symm apart.1
  · simpa [sampleMembers] using ⟨Json.Tidy.string _, tidy⟩
  · simpa [sampleMembers] using ⟨Json.Brief.string _, brief⟩
  · simp [sampleMembers, List.lookup_cons, beq_false_of_ne (Ne.symm apart.2)]

private theorem sample_workers {text : String} {count : Int} (digit : count.natAbs < 10)
    (fits : (unifyLineEnds text.toList).length ≤ sampleSetting.room)
    (written : unifyLineEnds text.toList =
      Json.write (.object (sampleMembers ++ [("workers", .int count)]))) :
    CrawlConfig.FlatText sampleSetting.room text (sampleMembers ++ [("workers", .int count)]) :=
  sample_holds (by decide) (.int count)
    (.int (digit.trans_le (Nat.le_self_pow (by decide) 10))) fits written

/-! ## The command line and the file -/

/-- Asking on the command line for links one by one is the same as asking for it in the
configuration file, and so is asking for a number of workers that a file may ask for. For no workers
and fewer a file is refused, and the run ends with exit code 1. On the command line no workers at
all count as nothing said, and so do fewer unless the configuration is one of a crawler: then the
run breaks off. -/
theorem run_overridden {setting : Setting} (lawful : setting.console.Lawful)
    {arguments : Arguments} {plain : List String} {start : Tree} {place : Place} {content : String}
    {members : List (String × Json)} {config : CrawlConfig}
    (accepted : Arguments.read setting.logLevel plain = .ok arguments)
    (file : ConfigFile setting arguments start place content members config) :
    let untouched := run setting plain start
    let amended (other : String) := run setting plain (start.put place (.file other))
    (∀ line other others,
      Arguments.read setting.logLevel line = .ok { arguments with sequential := true } →
      CrawlConfig.FlatText setting.room other others →
      CrawlConfig.Amends members others "parallel" (.bool false) →
        SameCourse setting arguments config.baseUrl place content other (run setting line start)
          (amended other)) ∧
    (arguments.workers = none → ∀ line count other others,
      Arguments.read setting.logLevel line = .ok { arguments with workers := some count } →
      CrawlConfig.FlatText setting.room other others →
      CrawlConfig.Amends members others "workers" (.int count) →
        let overridden := run setting line start
        (1 ≤ count → SameCourse setting arguments config.baseUrl place content other overridden
          (amended other)) ∧
        (count = 0 ∨ count < 0 ∧ ¬BuildsCrawler (arguments.override config) →
          overridden = untouched) ∧
        ∀ log opened, (Project.openLog setting.here setting.now arguments.logLevel).run.run start =
            (.ok log, opened) →
          opened.read (.ofPath setting.here arguments.config) = .ok (.text content) →
            (count < 0 → BuildsCrawler (arguments.override config) →
              overridden.1 = .broken (.run (.build .workersRefused))) ∧
            (count < 1 → tagless arguments.config.toList = true →
              (amended other).1 = .exit 1)) := by
  intro untouched amended
  constructor
  · intro line other others accepted' holds amends
    exact file.sameCourse_sequential accepted accepted' holds amends
  · intro unsaid line count other others accepted' holds amends overridden
    refine ⟨?_, ?_, fun log opened opens reads => ⟨?_, ?_⟩⟩
    · exact file.sameCourse_workers unsaid accepted' accepted holds amends
    · exact file.run_idle unsaid accepted' accepted
    · exact file.run_broken accepted' opens reads
    · exact file.run_fewWorkers lawful accepted opens reads holds amends

/-- The configuration of a single page: for three workers, for fewer than none, and for links one by
one. -/
theorem run_overridden_single :
    let plain := ["-c", "crawl.json"]
    let three := "\x7b\"base_url\":\"https://x.test/a\",\"workers\":3\x7d"
    let negative := "\x7b\"base_url\":\"https://x.test/a\",\"workers\":-3\x7d"
    let oneByOne := "\x7b\"base_url\":\"https://x.test/a\",\"parallel\":false\x7d"
    let amended (text : String) :=
      run sampleSetting plain (samplePage.put ["work", "crawl.json"] (.file text))
    (amended three).1 = (run sampleSetting (plain ++ ["--workers", "3"]) samplePage).1 ∧
      run sampleSetting (plain ++ ["--workers", "-3"]) samplePage =
        run sampleSetting plain samplePage ∧
      (amended negative).1 = .exit 1 ∧
      (amended oneByOne).1 = (run sampleSetting (plain ++ ["--sequential"]) samplePage).1 := by
  intro plain three negative oneByOne amended
  have holdsThree : CrawlConfig.FlatText sampleSetting.room three
      (sampleMembers ++ [("workers", .int 3)]) :=
    sample_workers (by decide) (by decide +kernel) (by decide +kernel)
  have holdsNegative : CrawlConfig.FlatText sampleSetting.room negative
      (sampleMembers ++ [("workers", .int (-3))]) :=
    sample_workers (by decide) (by decide +kernel) (by decide +kernel)
  have holdsOneByOne : CrawlConfig.FlatText sampleSetting.room oneByOne
      (sampleMembers ++ [("parallel", .bool false)]) :=
    sample_holds (by decide) (.bool _) (.bool _) (by decide +kernel) (by decide +kernel)
  have unbuilt : ¬BuildsCrawler (Arguments.override { config := "crawl.json" }
      { baseUrl := "https://x.test/a" }) := by
    have built : (Arguments.override { config := "crawl.json" }
        { baseUrl := "https://x.test/a" }).build = .ok (.single ⟨"https://x.test/a", {}⟩, []) := by
      with_unfolding_all rfl
    rintro ⟨crawler, diagnostics, crawls⟩
    cases built.symm.trans crawls
  obtain ⟨sequential, counts⟩ :=
    run_overridden (terminal_lawful 80 checkBrackets) sample_plain sample_file
  have asOne := sequential (plain ++ ["--sequential"]) oneByOne _ (by with_unfolding_all rfl)
    holdsOneByOne (CrawlConfig.amends_append rfl _)
  have asThree := counts rfl (plain ++ ["--workers", "3"]) 3 three _ (by with_unfolding_all rfl)
    holdsThree (CrawlConfig.amends_append rfl _)
  have asNegative := counts rfl (plain ++ ["--workers", "-3"]) (-3) negative _
    (by with_unfolding_all rfl) holdsNegative (CrawlConfig.amends_append rfl _)
  have refused := asNegative.2.2 _ _ sample_opens (by decide +kernel)
  exact ⟨(asThree.1 (by decide)).ending, asNegative.2.1 (.inr ⟨by decide, unbuilt⟩),
    refused.2 (by decide) (by decide +kernel), asOne.ending⟩

/-- No workers at all are taken for nothing said on the command line, where a configuration file
that asks for none is refused. -/
theorem run_noWorkers :
    (run sampleSetting ["-c", "crawl.json", "--workers", "0"] samplePage).1 = .exit 0 ∧
      (run sampleSetting ["-c", "crawl.json"]
        (sampleTree "\x7b\"base_url\":\"https://x.test/a\",\"workers\":0\x7d")).1 = .exit 1 := by
  constructor
  · let arguments : Arguments := { config := "crawl.json", workers := some 0 }
    have accepted : Arguments.read sampleSetting.logLevel
        ["-c", "crawl.json", "--workers", "0"] = .ok arguments := by
      with_unfolding_all rfl
    have reads : sampleOpened.read (.ofPath sampleSetting.here arguments.config) =
        .ok (.text sampleText) := by decide +kernel
    have loaded : arguments.load sampleSetting sampleOpened =
        .ok { baseUrl := "https://x.test/a" } := by
      rw [load_of_read arguments reads]
      exact sample_flat.loads sample_passes _
    have ran : ranOutcome sampleSetting arguments
        (arguments.override { baseUrl := "https://x.test/a" }) = .ok sampleRecorded := sample_ran
    exact run_of_result (terminal_lawful 80 checkBrackets) accepted sample_opens loaded ran rfl
      (by decide +kernel)
  · have holds : CrawlConfig.FlatText sampleSetting.room
        "\x7b\"base_url\":\"https://x.test/a\",\"workers\":0\x7d"
        (sampleMembers ++ [("workers", .int 0)]) :=
      sample_workers (by decide) (by decide +kernel) (by decide +kernel)
    exact sample_file.run_fewWorkers (terminal_lawful 80 checkBrackets) sample_plain sample_opens
      (by decide +kernel) holds (CrawlConfig.amends_append rfl _) (by decide) (by decide +kernel)

end PageHarvest.CommandLine
