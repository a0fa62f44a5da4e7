import PageHarvest.Extract.Data
import PageHarvest.Proofs.Path.WellFormed
import PageHarvest.Proofs.Validate.Faithful

/-! # Paths and specifications as data

Writing a path as data and checking the data gives the path back, and so does a detour over its
text unless the text holds a whole number of more digits than are read. Whatever data passes the
check stands for a path: it lists steps of the same kinds, and written in full it is data of the
same path.
-/

namespace PageHarvest

open Json Validate Validate.Checked

/-! ## Where a path looks, and what it reads there -/

namespace Selection

private theorem brief_first : Brief (Selection.single 0).toJson :=
  brief_pair (.string _) (.int (Nat.pow_pos (by decide)))

private theorem faithful : Faithful Selection.check Selection.toJson where
  passes selection := by
    cases selection with
    | single index =>
      exact oneOf_sound rfl rfl rfl (seq_sound (map_sound _ (ownKind_sound rfl))
        (optional_sound rfl (faithful_natural.passes index)))
    | all delimiter =>
      exact oneOf_sound rfl rfl rfl (seq_sound (map_sound _ (ownKind_sound rfl))
        (optional_sound rfl (faithful_text.passes delimiter)))
  tidy selection := by
    cases selection with
    | single index => exact tidy_pair (by decide) (.string _) (.int _)
    | all delimiter => exact tidy_pair (by decide) (.string _) (.string _)
  brief json selection brief passes := by
    obtain ⟨members, kind, check, object, -, known, passes⟩ := oneOf_eq_sound_iff.mp passes
    have listed := mem_of_lookup known
    simp only [List.mem_cons, List.not_mem_nil, or_false, Prod.mk.injEq] at listed
    rcases listed with ⟨rfl, rfl⟩ | ⟨rfl, rfl⟩
    all_goals replace passes := (model_of_members object).symm.trans passes
    · obtain ⟨index, -, read, rfl⟩ := ownKind_seq_eq_sound_iff.mp passes
      exact brief_pair (.string _)
        (faithful_natural.brief.optional (brief.of_members? object)
          (.int (Nat.pow_pos (by decide))) read)
    · obtain ⟨delimiter, -, -, rfl⟩ := ownKind_seq_eq_sound_iff.mp passes
      exact brief_pair (.string _) (.string delimiter)

end Selection

private theorem Destination.faithful : Faithful Destination.check Destination.toJson where
  passes d :=
    seq_sound (map_sound _ (required_sound rfl (faithful_text.passes d.query)))
      (optional_sound rfl (Selection.faithful.passes d.selection))
  tidy d := tidy_pair (by decide) (.string _) (Selection.faithful.tidy d.selection)
  brief json d brief passes := by
    obtain ⟨members, object, built⟩ := model_eq_sound_iff.mp passes
    obtain ⟨_, selection, named, read, rfl⟩ := seq_eq_sound_iff.mp built
    obtain ⟨query, -, rfl⟩ := Checked.map_eq_sound_iff.mp named
    exact brief_pair (.string query)
      (Selection.faithful.brief.optional (brief.of_members? object) Selection.brief_first read)

private theorem Destination.anchor_eq_sound_iff {d : Destination} {anchor : Anchor} :
    d.anchor = .sound anchor ↔ anchor.destination = d := by
  obtain ⟨query, selection⟩ := d
  cases selection with
  | single index =>
    constructor
    · rintro ⟨⟩
      rfl
    · rintro ⟨⟩
      rfl
  | all delimiter => exact ⟨nofun, nofun⟩

private theorem Anchor.faithful :
    Faithful Anchor.check fun anchor => anchor.destination.toJson where
  passes anchor :=
    andThen_eq_sound_iff.mpr
      ⟨_, Destination.faithful.passes anchor.destination, Destination.anchor_eq_sound_iff.mpr rfl⟩
  tidy anchor := Destination.faithful.tidy anchor.destination
  brief json anchor brief passes := by
    obtain ⟨d, read, anchored⟩ := andThen_eq_sound_iff.mp passes
    obtain rfl := Destination.anchor_eq_sound_iff.mp anchored
    exact Destination.faithful.brief json _ brief read

private theorem Target.brief_toJson (target : Target) : Brief target.toJson := by
  match target with
  | .attribute name => exact brief_pair (.string _) (.string name)
  | .text | .id | .classes => exact brief_single (.string _)

private theorem Target.faithful : Faithful Target.check Target.toJson where
  passes target := by
    match target with
    | .attribute name =>
      exact oneOf_sound rfl rfl rfl (seq_sound (map_sound _ (ownKind_sound rfl))
        (required_sound rfl (faithful_text.passes name)))
    | .text | .id | .classes => exact oneOf_sound rfl rfl rfl (map_sound _ (ownKind_sound rfl))
  tidy target := by
    match target with
    | .attribute name => exact tidy_pair (by decide) (.string _) (.string _)
    | .text | .id | .classes => exact tidy_single (.string _)
  brief _ target _ _ := target.brief_toJson

private theorem FieldSpec.faithful : Faithful FieldSpec.check FieldSpec.toJson where
  passes field :=
    seq_sound (map_sound _ (required_sound rfl (Destination.faithful.passes field.destination)))
      (optional_sound rfl (Target.faithful.passes field.target))
  tidy field :=
    tidy_pair (by decide) (Destination.faithful.tidy field.destination)
      (Target.faithful.tidy field.target)
  brief json field brief passes := by
    obtain ⟨members, object, built⟩ := model_eq_sound_iff.mp passes
    obtain ⟨_, target, located, -, rfl⟩ := seq_eq_sound_iff.mp built
    obtain ⟨d, read, rfl⟩ := Checked.map_eq_sound_iff.mp located
    exact brief_pair (Destination.faithful.brief.required (brief.of_members? object) read)
      target.brief_toJson

/-! ## Steps -/

namespace LooseStep

/-- The name of a step's kind. -/
def kind : LooseStep → String
  | .start _ => "start"
  | .later (.descend _) => "descend"
  | .later (.populate _) => "populate"
  | .later (.find _) => "find"

/-- What the members of a step's data hold besides its kind. -/
def ReadFrom (members : List (String × Json)) : LooseStep → Prop
  | .start anchor | .later (.descend anchor) =>
    required members "destination" Anchor.check = .sound anchor
  | .later (.populate fields) =>
    optional members "fields" .empty (map FieldSpec.check) = .sound fields
  | .later (.find field) => required members "field" FieldSpec.check = .sound field

/-- Data passes as a step exactly if it names the step's kind and holds what belongs to it. -/
theorem check_eq_sound_iff {json : Json} {step : LooseStep} :
    LooseStep.check json = .sound step ↔
      ∃ members, json.members? = some members ∧
        members.lookup "kind" = some (.string step.kind) ∧ step.ReadFrom members := by
  constructor
  · intro passes
    obtain ⟨members, kind, check, object, given, known, passes⟩ := oneOf_eq_sound_iff.mp passes
    have listed := mem_of_lookup known
    simp only [List.mem_cons, List.not_mem_nil, or_false, Prod.mk.injEq] at listed
    refine ⟨members, object, ?_⟩
    rcases listed with ⟨rfl, rfl⟩ | ⟨rfl, rfl⟩ | ⟨rfl, rfl⟩ | ⟨rfl, rfl⟩
    all_goals replace passes := (model_of_members object).symm.trans passes
    · obtain ⟨anchor, -, read, rfl⟩ := ownKind_seq_eq_sound_iff.mp passes
      exact ⟨given, read⟩
    · obtain ⟨anchor, -, read, rfl⟩ := ownKind_seq_eq_sound_iff.mp passes
      exact ⟨given, read⟩
    · obtain ⟨fields, -, read, rfl⟩ := ownKind_seq_eq_sound_iff.mp passes
      exact ⟨given, read⟩
    · obtain ⟨field, -, read, rfl⟩ := ownKind_seq_eq_sound_iff.mp passes
      exact ⟨given, read⟩
  · rintro ⟨members, object, given, read⟩
    match step with
    | .start anchor | .later (.descend anchor) | .later (.populate fields) | .later (.find field) =>
      exact oneOf_sound object given rfl (seq_sound (map_sound _ (ownKind_sound given)) read)

private theorem faithful : Faithful LooseStep.check LooseStep.toJson where
  passes step := by
    match step with
    | .start anchor | .later (.descend anchor) =>
      exact check_eq_sound_iff.mpr
        ⟨_, rfl, rfl, required_sound rfl (Anchor.faithful.passes anchor)⟩
    | .later (.populate fields) =>
      exact check_eq_sound_iff.mpr
        ⟨_, rfl, rfl, optional_sound rfl (FieldSpec.faithful.map.passes fields)⟩
    | .later (.find field) =>
      exact check_eq_sound_iff.mpr
        ⟨_, rfl, rfl, required_sound rfl (FieldSpec.faithful.passes field)⟩
  tidy step := by
    match step with
    | .start anchor | .later (.descend anchor) =>
      exact tidy_pair (by decide) (.string _) (Anchor.faithful.tidy anchor)
    | .later (.populate fields) =>
      exact tidy_pair (by decide) (.string _) (FieldSpec.faithful.map.tidy fields)
    | .later (.find field) =>
      exact tidy_pair (by decide) (.string _) (FieldSpec.faithful.tidy field)
  brief json step brief passes := by
    obtain ⟨members, object, -, read⟩ := check_eq_sound_iff.mp passes
    have brief := brief.of_members? object
    match step with
    | .start anchor | .later (.descend anchor) =>
      exact brief_pair (.string _) (Anchor.faithful.brief.required brief read)
    | .later (.populate fields) =>
      exact brief_pair (.string _)
        (FieldSpec.faithful.map.brief.optional brief (.object (List.forall_mem_nil _)) read)
    | .later (.find field) =>
      exact brief_pair (.string _) (FieldSpec.faithful.brief.required brief read)

end LooseStep

/-! ## Paths and specifications -/

namespace Path

private theorem ofSteps?_toSteps (path : Path) : ofSteps? path.toSteps = .ok path := by
  cases path with
  | empty => rfl
  | anchored start steps =>
    rw [toSteps, ofSteps?, laterSteps?_map]
    rfl

private theorem laterSteps?_eq_ok {loose : List LooseStep} {steps : List Step}
    (sound : laterSteps? loose = .ok steps) : loose = steps.map .later := by
  induction loose generalizing steps with
  | nil =>
    cases sound
    rfl
  | cons first rest ih =>
    cases first with
    | start anchor => cases sound
    | later step =>
      obtain ⟨others, laterSound, rfl⟩ := exists_of_map_eq_ok sound
      rw [List.map_cons, ih laterSound]

private theorem ofSteps?_eq_ok_iff {loose : List LooseStep} {path : Path} :
    ofSteps? loose = .ok path ↔ path.toSteps = loose := by
  refine ⟨fun sound => ?_, fun same => same ▸ path.ofSteps?_toSteps⟩
  match loose with
  | [] =>
    cases sound
    rfl
  | .start start :: rest =>
    obtain ⟨steps, laterSound, rfl⟩ := exists_of_map_eq_ok sound
    rw [toSteps, laterSteps?_eq_ok laterSound]
  | .later step :: rest => cases sound

/-- Steps form a path exactly when they are the steps of that path. -/
theorem ofSteps_eq_sound_iff {loose : List LooseStep} {path : Path} :
    ofSteps loose = .sound path ↔ path.toSteps = loose := by
  rw [← ofSteps?_eq_ok_iff, ofSteps]
  cases ofSteps? loose with
  | ok formed => simp
  | error fault => simp [Checked.fail]

/-- Data passes as a path exactly if the steps that it lists pass one by one and form the path. -/
theorem check_eq_sound_iff {json : Json} {path : Path} :
    Path.check json = .sound path ↔
      ∃ members, json.members? = some members ∧ optional members "steps" []
        (list LooseStep.check .tupleExpected) = .sound path.toSteps := by
  rw [Path.check, model_eq_sound_iff]
  simp only [andThen_eq_sound_iff, ofSteps_eq_sound_iff, exists_eq_right']

private theorem faithful : Faithful Path.check Path.toJson where
  passes path :=
    check_eq_sound_iff.mpr
      ⟨_, rfl, optional_sound rfl ((LooseStep.faithful.list _).passes path.toSteps)⟩
  tidy path := tidy_single ((LooseStep.faithful.list .tupleExpected).tidy path.toSteps)
  brief json path brief passes := by
    obtain ⟨members, object, read⟩ := check_eq_sound_iff.mp passes
    exact brief_single
      ((LooseStep.faithful.list _).brief.optional (brief.of_members? object)
        (.array (List.forall_mem_nil _)) read)

end Path

private theorem SearchSpec.faithful : Faithful SearchSpec.check SearchSpec.toJson where
  passes spec :=
    seq_sound (map_sound _ (optional_sound rfl (FieldSpec.faithful.map.passes spec.fields)))
      (optional_sound rfl ((Path.faithful.list _).passes spec.paths))
  tidy spec :=
    tidy_pair (by decide) (FieldSpec.faithful.map.tidy spec.fields)
      ((Path.faithful.list .tupleExpected).tidy spec.paths)
  brief json spec brief passes := by
    obtain ⟨members, object, built⟩ := model_eq_sound_iff.mp passes
    obtain ⟨_, paths, named, pathsRead, rfl⟩ := seq_eq_sound_iff.mp built
    obtain ⟨fields, fieldsRead, rfl⟩ := Checked.map_eq_sound_iff.mp named
    have brief := brief.of_members? object
    exact brief_pair
      (FieldSpec.faithful.map.brief.optional brief (.object (List.forall_mem_nil _)) fieldsRead)
      ((Path.faithful.list _).brief.optional brief (.array (List.forall_mem_nil _)) pathsRead)

/-! ## Data that is accepted -/

namespace Json

/-- The kind that data of a step names. -/
def kind? (step : Json) : Option String :=
  match step.get? "kind" with
  | some (.string kind) => some kind
  | _ => none

/-- The steps that data of a path lists. -/
def steps (json : Json) : List Json :=
  match json.get? "steps" with
  | some (.array steps) => steps
  | _ => []

/-- Full data of a step of a kind that moves to one match, counted from zero. -/
def MovesAs (kind : String) (step : Json) : Prop :=
  ∃ (query : String) (index : Int), 0 ≤ index ∧ step = .object [("kind", .string kind),
    ("destination", .object [("query", .string query),
      ("selection", .object [("kind", .string "single"), ("index", .int index)])])]

/-- Full data of a path that is empty or anchored. -/
structure Anchored (json : Json) : Prop where
  /-- A start comes first, if there are steps at all. -/
  first : ∀ step, json.steps.head? = some step → MovesAs "start" step
  /-- No other step is a start. -/
  only : ∀ step ∈ json.steps.tail, kind? step ≠ some "start"
  /-- Steps that move on move to one match as well. -/
  descends : ∀ step ∈ json.steps, kind? step = some "descend" → MovesAs "descend" step

end Json

namespace LooseStep

private theorem kind?_toJson (step : LooseStep) : kind? step.toJson = some step.kind := by
  match step with
  | .start anchor | .later (.descend anchor) | .later (.populate fields) | .later (.find field) =>
    rfl

private theorem movesAs_descend {step : LooseStep} (kind : step.kind = "descend") :
    MovesAs "descend" step.toJson := by
  match step with
  | .later (.descend anchor) => exact ⟨anchor.query, anchor.index, Int.natCast_nonneg _, rfl⟩
  | .start anchor | .later (.populate fields) | .later (.find field) =>
    exact absurd kind (by simp [LooseStep.kind])

private theorem kind_later (step : Step) : (LooseStep.later step).kind ≠ "start" := by
  cases step <;> simp [kind]

private theorem kind?_of_check {json : Json} {step : LooseStep}
    (accepted : LooseStep.check json = .sound step) : kind? json = kind? step.toJson := by
  obtain ⟨members, object, named, -⟩ := check_eq_sound_iff.mp accepted
  rw [step.kind?_toJson, kind?, get?, object, Option.bind_some, named]

private theorem kinds_of_checks {items : List Json} {loose : List LooseStep}
    (each : List.Forall₂ (fun item step => LooseStep.check item = .sound step) items loose) :
    items.map kind? = (loose.map LooseStep.toJson).map kind? := by
  induction each with
  | nil => rfl
  | cons first _ ih => simp only [List.map_cons, kind?_of_check first, ih]

end LooseStep

namespace Path

private theorem steps_toJson (path : Path) :
    path.toJson.steps = path.toSteps.map LooseStep.toJson := rfl

/-- The data of a path is anchored by a start. -/
private theorem anchored_toJson (path : Path) : Anchored path.toJson where
  first := by
    cases path with
    | empty => exact nofun
    | anchored start steps =>
      rintro step ⟨⟩
      exact ⟨start.query, start.index, Int.natCast_nonneg _, rfl⟩
  only := by
    cases path with
    | empty => exact nofun
    | anchored start steps =>
      intro step member
      obtain ⟨loose, among, rfl⟩ := List.mem_map.mp member
      obtain ⟨later, -, rfl⟩ := List.mem_map.mp among
      rw [LooseStep.kind?_toJson]
      exact fun same => LooseStep.kind_later later (Option.some.inj same)
  descends := by
    rw [path.steps_toJson, List.forall_mem_map]
    intro step _ named
    rw [step.kind?_toJson] at named
    exact step.movesAs_descend (Option.some.inj named)

/-- The steps of a path are of the kinds that its data lists. -/
theorem kinds_of_check {json : Json} {path : Path} (accepted : Path.check json = .sound path) :
    json.steps.map kind? = path.toJson.steps.map kind? := by
  obtain ⟨members, object, read⟩ := check_eq_sound_iff.mp accepted
  rw [path.steps_toJson]
  obtain ⟨absent, none⟩ | ⟨listed, found, passes⟩ := optional_eq_sound_iff.mp read
  · rw [steps, get?, object, Option.bind_some, absent, ← none]
    rfl
  · obtain ⟨items, rfl, each⟩ := list_eq_sound_iff.mp passes
    rw [steps, get?, object, Option.bind_some, found]
    exact LooseStep.kinds_of_checks each

end Path

/-- Data of a path and of a specification gives back what it is of, with the names of every map in
their order, and so does its text exactly if its whole numbers are not too long to be read. Whatever
data passes as a path lists steps of the kinds that the path has, and the path is empty or anchored
by a start, with single matches counted from zero. Data of that path passes as the same path again,
and so does its text where the first data was read from a text. -/
theorem data_roundTrips :
    (∀ path : Path, Path.check path.toJson = .sound path ∧
      (readAs Path.check path.toJson.compact = .ok (.sound path) ↔ Brief path.toJson)) ∧
    (∀ spec : SearchSpec, SearchSpec.check spec.toJson = .sound spec ∧
      (readAs SearchSpec.check spec.toJson.compact = .ok (.sound spec) ↔ Brief spec.toJson)) ∧
    ∀ (json : Json) (path : Path), Path.check json = .sound path →
      Anchored path.toJson ∧ json.steps.map kind? = path.toJson.steps.map kind? ∧
        Path.check path.toJson = .sound path ∧
        ∀ text, Json.parse text = .ok json →
          readAs Path.check path.toJson.compact = .ok (.sound path) := by
  refine ⟨fun path => ⟨Path.faithful.passes path, Path.faithful.readAs_compact_iff path⟩,
    fun spec => ⟨SearchSpec.faithful.passes spec, SearchSpec.faithful.readAs_compact_iff spec⟩,
    fun json path accepted => ⟨path.anchored_toJson, path.kinds_of_check accepted,
      Path.faithful.passes path, fun text read => ?_⟩⟩
  have again : readAs Path.check text = .ok (.sound path) := by
    rw [readAs, read, Except.map, accepted]
  exact (Path.faithful.readAs_compact_iff path).mpr (Path.faithful.brief_of_readAs again)

/-- Data that leaves out what is usual and gives positions as a text and as a truth value. -/
def sampleData : Json :=
  .object [("steps", .array [
    .object [("kind", .string "start"), ("destination", .object [("query", .string "div"),
      ("selection", .object [("kind", .string "single"), ("index", .string " 4 ")])])],
    .object [("kind", .string "descend"), ("destination", .object [("query", .string "p"),
      ("selection", .object [("kind", .string "single"), ("index", .bool true)])])],
    .object [("kind", .string "find"),
      ("field", .object [("destination", .object [("query", .string "b")])])]])]

/-- The path that the sample data stands for. -/
def samplePath : Path :=
  .anchored ⟨"div", 4⟩ [.descend ⟨"p", 1⟩, .find ⟨⟨"b", .single 0⟩, .text⟩]

private theorem tidy_sampleData : Tidy sampleData := by
  refine tidy_single (.array (List.forall_mem_cons.mpr ⟨?start, List.forall_mem_cons.mpr
    ⟨?descend, List.forall_mem_singleton.mpr ?find⟩⟩))
  case start | descend =>
    exact tidy_pair (by decide) (.string _)
      (tidy_pair (by decide) (.string _) (tidy_pair (by decide) (.string _) (by constructor)))
  case find =>
    exact tidy_pair (by decide) (.string _) (tidy_single (tidy_single (.string _)))

private theorem brief_sampleData : Brief sampleData := by
  refine brief_single (.array (List.forall_mem_cons.mpr ⟨?start, List.forall_mem_cons.mpr
    ⟨?descend, List.forall_mem_singleton.mpr ?find⟩⟩))
  case start | descend =>
    exact brief_pair (.string _)
      (brief_pair (.string _) (brief_pair (.string _) (by constructor)))
  case find => exact brief_pair (.string _) (brief_single (brief_single (.string _)))

/-- A path of three steps, whose positions are given in odd ways, is read and written and read
again. -/
theorem sample_roundTrips :
    Path.check sampleData = .sound samplePath ∧
      Json.parse sampleData.compact = .ok sampleData ∧
      readAs Path.check samplePath.toJson.compact = .ok (.sound samplePath) := by
  have accepted : Path.check sampleData = .sound samplePath := by decide
  have read := (parse_compact_iff tidy_sampleData).mpr brief_sampleData
  exact ⟨accepted, read,
    (data_roundTrips.2.2 sampleData samplePath accepted).2.2.2 sampleData.compact read⟩

/-- A position with one digit too many is not read back. -/
theorem data_longPosition :
    let path : Path := .anchored ⟨"a", 10 ^ 4300⟩ []
    Path.check path.toJson = .sound path ∧
      readAs Path.check path.toJson.compact ≠ .ok (.sound path) := by
  intro path
  refine ⟨Path.faithful.passes path, fun back => ?_⟩
  have brief := (Path.faithful.readAs_compact_iff path).mp back
  have steps := brief.member (rfl : List.lookup "steps" _ = some (.array _))
  have start := brief_array_iff.mp steps _ List.mem_cons_self
  have place := start.member (rfl : List.lookup "destination" _ = some (.object _))
  have selection := place.member (rfl : List.lookup "selection" _ = some (.object _))
  have position := selection.member (rfl : List.lookup "index" _ = some (.int _))
  exact absurd (brief_int_iff.mp position) (by decide +kernel)

end PageHarvest
