import PageHarvest.Proofs.CommandLine.Ending

/-! # The program in alike trees

The program reads no file but that of the configuration. Once that is read it does the same in trees
that differ in one file: it prints the same, comes to the same, and saves the same result.
-/

namespace PageHarvest.CommandLine

open Files Pipeline Report

/-! ## Work of the program from related states -/

/-- Two states of the program that differ in no more than their trees, which are related. -/
structure Together (trees : Tree → Tree → Prop) (state state' : State) : Prop where
  tree : trees state.tree state'.tree
  progress : state'.progress = state.progress
  fetcher : state'.fetcher = state.fetcher

section

variable {α : Type} {trees : Tree → Tree → Prop}

private theorem keeps_running (work : Running Float α) :
    Keeps (Together trees) (running work) (running work) := by
  intro state state' together
  let ran := work.run.run state.progress
  refine ⟨.ok ran.1, { state with progress := ran.2 }, { state' with progress := ran.2 },
    run_running work state, ?_, ⟨together.tree, rfl, together.fetcher⟩⟩
  rw [run_running, together.progress]

private theorem keeps_say (setting : Setting) (markup : String) :
    Keeps (Together trees) (say setting markup) (say setting markup) := by
  refine Keeps.bind (keeps_running _) fun outcome => ?_
  cases outcome with
  | error fault => exact Mirrors.throw _ fun _ _ together => together
  | ok _ => exact Mirrors.pure _ fun _ _ together => together

/-- Giving up never ends with exit code 0. -/
theorem mirrors_giveUp (setting : Setting) (fault : Fault) :
    Mirrors (Together trees) (fun outcome state state' => Together trees state state' ∧
      outcome ≠ .ok 0) (giveUp setting fault) (giveUp setting fault) := by
  rw [giveUp]
  cases fault.told? with
  | none => exact Mirrors.throw _ fun _ _ together => ⟨together, by simp⟩
  | some message =>
    refine Mirrors.bind (keeps_say setting _) (fun _ _ _ together => ⟨together, by simp⟩)
      fun _ => ?_
    exact Mirrors.pure _ fun _ _ together => ⟨together, by simp⟩

section

variable {ε : Type} {rename : ε → Fault} {work other : ExceptT ε (StateM Tree) α}

/-- Work on related trees is related work of the program. -/
theorem mirrors_filing {after : Except ε α → Tree → Tree → Prop}
    (mirrors : Mirrors trees after work other) {left : Except Fault α → Tree → Tree → Prop}
    (holds : ∀ outcome tree tree', after outcome tree tree' →
      left (outcome.mapError rename) tree tree') :
    Mirrors (Together trees) (fun outcome => Together (left outcome)) (filing rename work)
      (filing rename other) := by
  intro state state' together
  obtain ⟨outcome, tree, tree', ran, ran', between⟩ := mirrors together.tree
  refine ⟨outcome.mapError rename, { state with tree }, { state' with tree := tree' }, ?_, ?_,
    holds outcome tree tree' between, together.progress, together.fetcher⟩
  · rw [run_filing, ran]
  · rw [run_filing, ran']

theorem keeps_filing (keeps : Keeps trees work other) :
    Keeps (Together trees) (filing rename work) (filing rename other) :=
  mirrors_filing keeps fun _ _ _ related => related

end

end

/-! ## Runs from alike trees -/

section

variable {setting : Setting} {arguments : Arguments} {log : Project.Log} {config : CrawlConfig}
  {R : Content → Content → Prop} {place : Place}

/-- Two trees hold the same text where a result from an address is saved. -/
def SavedAlike (setting : Setting) (path base : String) (tree tree' : Tree) : Prop :=
  ∃ before location content, destination setting before path base = .ok location ∧
    tree.read location = .ok content ∧ tree'.read location = .ok content

/-- Saving a result treats trees that are alike alike, and saves the same result. -/
private theorem mirrors_saveResult (refl : ∀ content, R content content) (path base : String)
    (result : CrawlResult) :
    Mirrors (Together (Alike R place))
      (fun outcome => Together fun tree tree' => Alike R place tree tree' ∧
        (outcome = .ok () → SavedAlike setting path base tree tree'))
      (saveResult setting path base result) (saveResult setting path base result) :=
  Mirrors.get_bind fun state state' together => by
    rw [destination_alike together.tree]
    cases leads : destination setting state.tree path base with
    | error fault =>
      exact ⟨_, state, state', rfl, rfl, ⟨together.tree, nofun⟩, together.progress,
        together.fetcher⟩
    | ok location =>
      have saves : Mirrors (Together (Alike R place))
          (fun outcome => Together fun tree tree' => Alike R place tree tree' ∧
            (outcome = .ok () → SavedAlike setting path base tree tree'))
          (filing .save (save location base setting.now result))
          (filing .save (save location base setting.now result)) := by
        refine mirrors_filing (mirrors_save refl location base setting.now result) ?_
        rintro outcome tree tree' ⟨alike, reads⟩
        refine ⟨alike, fun succeeds => ⟨state.tree, location, _, leads, reads ?_⟩⟩
        cases outcome with
        | error problem => cases succeeds
        | ok _ => rfl
      refine Mirrors.bind saves (fun fault state state' together => ⟨⟨together.tree.1, nofun⟩,
        together.progress, together.fetcher⟩) (fun _ state state' together => ?_) together
      obtain ⟨outcome, left, left', ran, ran', kept⟩ :=
        keeps_say setting s!"Results written to: {location.path}" together
      exact ⟨outcome, left, left', ran, ran', ⟨kept.tree.1, fun _ => kept.tree.2 rfl⟩,
        kept.progress, kept.fetcher⟩

private theorem keeps_nameLog {trees : Tree → Tree → Prop}
    (alike : ∀ tree tree', trees tree tree' → Alike R place tree tree') (log : Project.Log) :
    Keeps (Together trees)
      (do
        say setting s!"[dim]Log file: {(← get).tree.path log.place}[/dim]"
        return 0 : Program Nat)
      (do
        say setting s!"[dim]Log file: {(← get).tree.path log.place}[/dim]"
        return 0) :=
  Mirrors.get_bind fun state state' together => by
    rw [(alike _ _ together.tree).path]
    refine Keeps.bind (keeps_say setting _) (fun _ => ?_) together
    exact Mirrors.pure 0 fun _ _ together => together

/-- What is related once a run has come to an outcome: all but the trees, which are alike, and hold
the same result if there is one and the command line asks for it. -/
def EndsAlike (R : Content → Content → Prop) (place : Place) (setting : Setting)
    (arguments : Arguments) (base : String) (outcome : Except Fault Nat) : State → State → Prop :=
  Together fun tree tree' => Alike R place tree tree' ∧ (outcome = .ok 0 →
    ∀ path, arguments.out = some path → SavedAlike setting path base tree tree')

/-- Two states that are alike make endings alike, unless the program ends well. -/
theorem Together.endsAlike {state state' : State} {base : String} {outcome : Except Fault Nat}
    (together : Together (Alike R place) state state') (other : outcome ≠ .ok 0) :
    EndsAlike R place setting arguments base outcome state state' :=
  ⟨⟨together.tree, fun ended => absurd ended other⟩, together.progress, together.fetcher⟩

private theorem mirrors_conclude (refl : ∀ content, R content content) (result : CrawlResult) :
    Mirrors (Together (Alike R place)) (EndsAlike R place setting arguments config.baseUrl)
      (conclude setting arguments log config result)
      (conclude setting arguments log config result) := by
  cases asked : arguments.out with
  | none =>
    rw [conclude, asked]
    intro state state' together
    obtain ⟨outcome, left, left', ran, ran', kept⟩ := keeps_nameLog (fun _ _ => id) log together
    refine ⟨outcome, left, left', ran, ran', ⟨kept.tree, ?_⟩, kept.progress, kept.fetcher⟩
    rintro - path given
    cases asked.symm.trans given
  | some path =>
    rw [conclude, asked]
    refine Mirrors.bind (mirrors_saveResult refl path config.baseUrl result)
      (fun fault state state' together => Together.endsAlike ⟨together.tree.1, together.progress,
        together.fetcher⟩ (by simp)) fun _ state state' together => ?_
    obtain ⟨outcome, left, left', ran, ran', kept⟩ :=
      keeps_nameLog (fun _ _ trees => trees.1) log together
    refine ⟨outcome, left, left', ran, ran', ⟨kept.tree.1, ?_⟩, kept.progress, kept.fetcher⟩
    intro _ path' given
    cases asked.symm.trans given
    exact kept.tree.2 rfl

/-- Running a configuration treats trees that are alike alike. -/
theorem mirrors_runConfig (refl : ∀ content, R content content)
    (closed : ∀ content content' text, R content content' →
      R (content.append text) (content'.append text)) :
    Mirrors (Together (Alike R place)) (EndsAlike R place setting arguments config.baseUrl)
      (runConfig setting arguments log config) (runConfig setting arguments log config) := by
  have lost (fault : Fault) (state state' : State)
      (together : Together (Alike R place) state state') :
      EndsAlike R place setting arguments config.baseUrl (.error fault) state state' :=
    together.endsAlike nofun
  have ordered : Keeps (Together (Alike R place))
      (modify ({ · with fetcher := some ⟨arguments.timeout, setting.userAgent⟩ }) : Program Unit)
      (modify ({ · with fetcher := some ⟨arguments.timeout, setting.userAgent⟩ })) :=
    fun state state' together => ⟨.ok (), _, _, rfl, rfl, ⟨together.tree, together.progress, rfl⟩⟩
  refine Mirrors.bind ordered lost fun _ => Mirrors.bind (keeps_running _) lost fun outcome => ?_
  refine Mirrors.get_bind fun state state' together => ?_
  rw [together.progress]
  refine Mirrors.bind (keeps_filing (Project.keeps_write closed log _ _)) lost (fun _ => ?_)
    together
  cases outcome with
  | ok result => exact mirrors_conclude refl result
  | error fault =>
    intro state state' together
    obtain ⟨outcome, left, left', ran, ran', kept, other⟩ :=
      mirrors_giveUp setting (.run fault) together
    exact ⟨outcome, left, left', ran, ran', kept.endsAlike other⟩

end

end PageHarvest.CommandLine
