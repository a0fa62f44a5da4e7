import PageHarvest.Proofs.FieldMap
import PageHarvest.Proofs.Path.Tokens
import PageHarvest.Proofs.Text.Casing
import PageHarvest.Proofs.Traverse

/-! # What a compiled path is like

The texts of a path come out of arguments, which are trimmed and must not be empty, so every step
that compiles has sound texts. The path of a text whose first token is a sound start is made of such
steps, with the start in front, and its populate steps stand where they were asked for.
-/

namespace PageHarvest

open Text

/-- A text that is not empty and has no blanks around it. -/
structure Neat (text : String) : Prop where
  given : text ≠ ""
  unpadded : Unpadded text.toList

/-- An attribute is named as documents have it. -/
def Target.Sound : Target → Prop
  | .attribute name => Neat name ∧ lower name.toList = name.toList
  | .text | .id | .classes => True

/-- A field that says where to look and what to read. -/
structure FieldSpec.Sound (field : FieldSpec) : Prop where
  query : Neat field.destination.query
  target : field.target.Sound

/-- A step whose selectors and names are sound. -/
def LooseStep.Sound : LooseStep → Prop
  | .start anchor | .later (.descend anchor) => Neat anchor.query
  | .later (.populate fields) => ∀ entry ∈ fields.entries, Neat entry.1 ∧ entry.2.Sound
  | .later (.find field) => field.Sound

/-- Where a step moves to, if it is one that moves. -/
def LooseStep.destination? : LooseStep → Option Destination
  | .start anchor | .later (.descend anchor) => some anchor.destination
  | .later (.populate _) | .later (.find _) => none

namespace Path

/-! ## Arguments -/

/-- A value is what stands behind the colon of some argument, trimmed. -/
theorem exists_part_of_get? {inner value : List Char} {args : Arguments}
    (parsed : parseArguments inner = .ok args) {key : String}
    (found : args.get? key = some value) :
    ∃ front back, front ++ ':' :: back ∈ splitArguments inner ∧ trim back = value := by
  have member : (key.toList, value) ∈ args := List.mem_reverse.mp (mem_of_lookup found)
  obtain ⟨part, among, one⟩ := exists_of_mem_mapM parsed member
  rw [parseArgument] at one
  cases pieces : cut [':'] part with
  | none =>
    rw [pieces] at one
    cases one
  | some pair =>
    rw [pieces] at one
    refine ⟨pair.1, pair.2, ?_, congrArg Prod.snd (Except.ok.inj one)⟩
    have whole := append_of_cut pieces
    rw [List.append_assoc, List.singleton_append] at whole
    exact whole ▸ List.mem_of_mem_filter among

/-- The values of arguments are trimmed. -/
theorem unpadded_of_get? {inner value : List Char} {args : Arguments}
    (parsed : parseArguments inner = .ok args) {key : String}
    (found : args.get? key = some value) : Unpadded value := by
  obtain ⟨front, back, -, rfl⟩ := exists_part_of_get? parsed found
  exact unpadded_trim back

private theorem neat_of_unpadded {value : List Char} (given : value ≠ [])
    (unpadded : Unpadded value) :
    Neat (String.ofList value) where
  given := by
    intro empty
    apply given
    rw [← String.toList_ofList (l := value), empty]
    rfl
  unpadded := by rwa [String.toList_ofList]

/-- A value that is required is neat. -/
theorem neat_of_required {token value : List Char} {args : Arguments}
    (parsed : stepArguments token = .ok args) {key : String} {fault : Fault}
    (found : required args key fault = .ok value) : Neat (String.ofList value) := by
  obtain ⟨inner, -, parsed⟩ := exists_of_bind_eq_ok parsed
  rw [required] at found
  split at found
  · cases found
  · cases found
  · next nonempty given =>
    cases found
    exact neat_of_unpadded nonempty (unpadded_of_get? parsed given)

private theorem neat_of_selectorOf {token : List Char} {args : Arguments} {query : String}
    (parsed : stepArguments token = .ok args) (found : selectorOf args = .ok query) :
    Neat query := by
  obtain ⟨value, given, rfl⟩ := exists_of_map_eq_ok found
  exact neat_of_required parsed given

private theorem neat_of_nameOf {token : List Char} {args : Arguments} {name : String}
    (parsed : stepArguments token = .ok args) (found : nameOf args = .ok name) : Neat name := by
  obtain ⟨value, given, rfl⟩ := exists_of_map_eq_ok found
  exact neat_of_required parsed given

/-- An attribute's name is trimmed and lower-cased, which leaves it trimmed and lower-cased. -/
theorem sound_of_parseLocation {raw : List Char} {target : Target}
    (located : parseLocation raw = .ok target) : target.Sound := by
  simp only [parseLocation] at located
  split at located
  · cases located
    exact trivial
  · split at located
    · obtain ⟨between, -, located⟩ := exists_of_bind_eq_ok located
      split at located
      · cases located
      · next name given =>
        cases located
        refine ⟨neat_of_unpadded given ?_, ?_⟩
        · exact unpadded_lower (unpadded_trim between)
        · rw [String.toList_ofList, lower_lower]
    · split at located
      · cases located
        exact trivial
      · split at located
        · cases located
          exact trivial
        · cases located

private theorem sound_of_locationOf {args : Arguments} {target : Target}
    (located : locationOf args = .ok target) : target.Sound := by
  obtain ⟨raw, -, located⟩ := exists_of_bind_eq_ok located
  exact sound_of_parseLocation located

/-! ## Steps -/

private theorem neat_of_compileAnchor {token : List Char} {anchor : Anchor}
    (compiled : compileAnchor token = .ok anchor) : Neat anchor.query := by
  obtain ⟨args, parsed, compiled⟩ := exists_of_bind_eq_ok compiled
  obtain ⟨query, found, compiled⟩ := exists_of_bind_eq_ok compiled
  obtain ⟨index, -, compiled⟩ := exists_of_bind_eq_ok compiled
  cases compiled
  exact neat_of_selectorOf parsed found

private theorem sound_of_compileFind {token : List Char} {field : FieldSpec}
    (compiled : compileFind token = .ok field) : field.Sound := by
  obtain ⟨args, parsed, compiled⟩ := exists_of_bind_eq_ok compiled
  obtain ⟨query, found, compiled⟩ := exists_of_bind_eq_ok compiled
  obtain ⟨target, located, compiled⟩ := exists_of_bind_eq_ok compiled
  obtain ⟨selection, -, compiled⟩ := exists_of_bind_eq_ok compiled
  cases compiled
  exact ⟨neat_of_selectorOf parsed found, sound_of_locationOf located⟩

private theorem sound_of_compilePopulate {token : List Char} {name : String} {field : FieldSpec}
    (compiled : compilePopulate token = .ok (name, field)) : Neat name ∧ field.Sound := by
  obtain ⟨args, parsed, compiled⟩ := exists_of_bind_eq_ok compiled
  obtain ⟨query, found, compiled⟩ := exists_of_bind_eq_ok compiled
  obtain ⟨target, located, compiled⟩ := exists_of_bind_eq_ok compiled
  obtain ⟨given, named, compiled⟩ := exists_of_bind_eq_ok compiled
  obtain ⟨selection, -, compiled⟩ := exists_of_bind_eq_ok compiled
  cases compiled
  exact ⟨neat_of_nameOf parsed named, neat_of_selectorOf parsed found,
    sound_of_locationOf located⟩

/-- A step that compiles is sound, and sets one name if it sets any. -/
theorem sound_of_compileLater {token : List Char} {step : Step}
    (compiled : compileLater token = .ok step) :
    LooseStep.Sound (.later step) ∧ ∀ fields, step = .populate fields → fields.size = 1 := by
  rw [compileLater] at compiled
  split at compiled
  · obtain ⟨anchor, moves, rfl⟩ := exists_of_map_eq_ok compiled
    exact ⟨neat_of_compileAnchor moves, nofun⟩
  · obtain ⟨field, collects, rfl⟩ := exists_of_map_eq_ok compiled
    exact ⟨sound_of_compileFind collects, nofun⟩
  · obtain ⟨⟨name, field⟩, sets, rfl⟩ := exists_of_map_eq_ok compiled
    constructor
    · exact List.forall_mem_singleton.mpr (sound_of_compilePopulate sets)
    · rintro fields ⟨⟩
      rfl
  · cases compiled
  · cases compiled

/-! ## Paths -/

/-- Where the populate steps stand. Carried out at the end they are a single last step, which sets
some name, or there are none; carried out in place each sets one name. -/
def Placed : Placing → List LooseStep → Prop
  | .inPlace, steps => ∀ fields, .later (.populate fields) ∈ steps → fields.size = 1
  | .atEnd, steps => ∃ others last, steps = others ++ last ∧
      (∀ fields, .later (.populate fields) ∉ others) ∧
      (last = [] ∨ ∃ fields, fields.isEmpty = false ∧ last = [.later (.populate fields)])

/-- A path as it may be evaluated. -/
structure WellFormed (placing : Placing) (path : Path) : Prop where
  /-- The check of where a start may stand accepts the steps. -/
  accepted : ofSteps? path.toSteps = .ok path
  started : ∃ start rest, path.toSteps = .start start :: rest ∧ ∀ other, .start other ∉ rest
  single : ∀ step ∈ path.toSteps, ∀ destination, step.destination? = some destination →
    ∃ index : Nat, destination.selection = .single index
  sound : ∀ step ∈ path.toSteps, step.Sound
  placed : Placed placing path.toSteps

theorem laterSteps?_map (steps : List Step) : laterSteps? (steps.map .later) = .ok steps := by
  induction steps with
  | nil => rfl
  | cons step rest ih =>
    rw [List.map_cons, laterSteps?, ih]
    rfl

/-- What is left to show of a path that starts is about its later steps. -/
theorem wellFormed_anchored {placing : Placing} {start : Anchor} {steps : List Step}
    (neat : Neat start.query) (sound : ∀ step ∈ steps, LooseStep.Sound (.later step))
    (placed : Placed placing (.start start :: steps.map .later)) :
    WellFormed placing (.anchored start steps) where
  accepted := by
    rw [toSteps, ofSteps?, laterSteps?_map]
    rfl
  started := by
    refine ⟨start, steps.map .later, rfl, ?_⟩
    intro other member
    obtain ⟨step, -, impossible⟩ := List.mem_map.mp member
    cases impossible
  single := by
    intro step _ destination moves
    match step with
    | .start anchor | .later (.descend anchor) =>
      cases moves
      exact ⟨anchor.index, rfl⟩
    | .later (.populate _) | .later (.find _) => cases moves
  sound := by
    intro step member
    rcases List.mem_cons.mp member with rfl | later
    · exact neat
    · obtain ⟨other, among, rfl⟩ := List.mem_map.mp later
      exact sound other among
  placed := placed

/-- Steps that compiled one by one. -/
theorem sound_of_mem_compileAll {tokens : List (List Char)} {step : Step}
    (member : step ∈ (compileAll tokens).1) :
    LooseStep.Sound (.later step) ∧ ∀ fields, step = .populate fields → fields.size = 1 := by
  rw [compileAll_eq] at member
  obtain ⟨token, -, among⟩ := List.mem_flatMap.mp member
  rw [compileOne] at among
  split at among
  · next compiled =>
    obtain rfl := List.mem_singleton.mp among
    exact sound_of_compileLater compiled
  · cases among

private theorem wellFormed_inPlace {start : Anchor} {tokens : List (List Char)}
    (neat : Neat start.query) :
    WellFormed .inPlace (.anchored start (compileAll tokens).1) := by
  apply wellFormed_anchored neat
  · intro step member
    exact (sound_of_mem_compileAll member).1
  · intro fields member
    rcases List.mem_cons.mp member with impossible | later
    · cases impossible
    · obtain ⟨step, among, same⟩ := List.mem_map.mp later
      exact (sound_of_mem_compileAll among).2 fields (LooseStep.later.inj same)

/-- Gathered populate steps are one last step, if there are any. -/
theorem placed_gathered (start : Anchor) (steps : List Step) :
    Placed .atEnd (gathered (.anchored start steps)).toSteps := by
  simp only [gathered, toSteps, List.map_append, ← List.cons_append]
  refine ⟨_, _, rfl, ?_, ?_⟩
  · intro fields member
    rcases List.mem_cons.mp member with impossible | later
    · cases impossible
    · obtain ⟨step, kept, same⟩ := List.mem_map.mp later
      cases same
      exact absurd (List.mem_filter.mp kept).2 Bool.false_ne_true
  · split
    · exact .inl rfl
    · next given =>
      exact .inr ⟨_, FieldMap.isEmpty_setAll_of_ne_nil .empty given, rfl⟩

/-- Gathering sets names that were set in place. -/
theorem wellFormed_atEnd {start : Anchor} {tokens : List (List Char)}
    (neat : Neat start.query) :
    WellFormed .atEnd (.anchored start (mergePopulates (compileAll tokens).1)) := by
  have placed := placed_gathered start (compileAll tokens).1
  rw [anchored_mergePopulates]
  refine wellFormed_anchored neat ?_ placed
  intro step member
  rcases List.mem_append.mp member with kept | merged
  · exact (sound_of_mem_compileAll (List.mem_of_mem_filter kept)).1
  · split at merged
    · cases merged
    · obtain rfl := List.mem_singleton.mp merged
      intro entry given
      obtain ⟨other, among, sets⟩ := List.mem_flatMap.mp (FieldMap.mem_of_mem_ofList given)
      cases other with
      | populate fields => exact (sound_of_mem_compileAll among).1 entry sets
      | descend | find => cases sets

/-! ## Texts -/

/-- Only a start opens a path. -/
theorem compileFirst_eq_ok_iff {token : List Char} {start : Anchor} :
    compileFirst token = .ok start ↔
      keyword? token = some .start ∧ compileAnchor token = .ok start := by
  rw [compileFirst]
  split
  · next isStart =>
    cases compileAnchor token with
    | ok anchor => simp [isStart, Except.mapError]
    | error fault => simp [Except.mapError]
  · next unknown => simp [unknown]
  · next notStart isKeyword =>
    constructor
    · intro impossible
      cases impossible
    · intro opens
      exact absurd (Option.some.inj (isKeyword.symm.trans opens.1)) notStart

/-- A first token that is no sound start has a diagnostic. -/
theorem ne_nil_of_compileFirst {token : List Char} {broken : List Diagnostic}
    (fails : compileFirst token = .error broken) : broken ≠ [] := by
  rw [compileFirst] at fails
  split at fails
  · cases result : compileAnchor token with
    | ok anchor =>
      rw [result] at fails
      cases fails
    | error fault =>
      rw [result] at fails
      cases fails
      exact List.cons_ne_nil _ _
  · cases fails
    exact List.cons_ne_nil _ _
  · cases fails
    exact List.cons_ne_nil _ _

private theorem compileStrict_eq_ok_iff {text : String} {placing : Placing} {path : Path} :
    compileStrict text placing = .ok path ↔ compile text placing = (path, []) := by
  rw [compileStrict]
  split
  · next compiled => rw [compiled]; simp
  · next other diagnostics given compiled =>
    rw [compiled]
    constructor
    · intro impossible
      cases impossible
    · intro same
      exact absurd (congrArg Prod.snd same) given

/-- Whether the first token of a text is a start that compiles. -/
def Starts (text : String) : Prop :=
  ∃ first rest start, tokens text.toList = first :: rest ∧
    keyword? first = some .start ∧ compileAnchor first = .ok start

private theorem WellFormed.ne_empty {placing : Placing} {path : Path}
    (sound : WellFormed placing path) :
    path ≠ .empty := by
  rintro rfl
  obtain ⟨start, rest, none, -⟩ := sound.started
  cases none

/-- What a text compiles to is settled by whether it starts. -/
theorem compile_cases (text : String) (placing : Placing) :
    ¬Starts text ∧ (compile text placing).1 = .empty ∧ (compile text placing).2 ≠ [] ∨
      Starts text ∧ WellFormed placing (compile text placing).1 := by
  obtain ⟨first, rest, split⟩ := exists_tokens text.toList
  rw [compile_of_tokens split]
  cases opening : compileFirst first with
  | error broken =>
    refine .inl ⟨?_, rfl, ?_⟩
    · rintro ⟨other, others, start, same, opens⟩
      obtain ⟨rfl, rfl⟩ := List.cons_eq_cons.mp (split.symm.trans same)
      rw [compileFirst_eq_ok_iff.mpr opens] at opening
      cases opening
    · exact List.append_ne_nil_of_left_ne_nil (ne_nil_of_compileFirst opening) _
  | ok start =>
    have opens := compileFirst_eq_ok_iff.mp opening
    have neat := neat_of_compileAnchor opens.2
    refine .inr ⟨⟨first, rest, start, split, opens⟩, ?_⟩
    cases placing with
    | atEnd => exact wellFormed_atEnd neat
    | inPlace => exact wellFormed_inPlace neat

private theorem compile_ne_empty_iff (text : String) (placing : Placing) :
    (compile text placing).1 ≠ .empty ↔ Starts text := by
  rcases compile_cases text placing with ⟨closed, empty, -⟩ | ⟨starts, sound⟩
  · exact iff_of_false (not_not.mpr empty) closed
  · exact iff_of_true sound.ne_empty starts

private theorem exists_compileStrict_iff (text : String) (placing : Placing) :
    (∃ path, compileStrict text placing = .ok path) ↔ (compile text placing).2 = [] := by
  constructor
  · rintro ⟨path, succeeds⟩
    rw [compileStrict_eq_ok_iff.mp succeeds]
  · intro clean
    exact ⟨_, compileStrict_eq_ok_iff.mpr (Prod.ext rfl clean)⟩

private theorem compileStrict_ne_empty {text : String} {placing : Placing} {path : Path}
    (succeeds : compileStrict text placing = .ok path) :
    path = (compile text placing).1 ∧ path ≠ .empty := by
  have same := compileStrict_eq_ok_iff.mp succeeds
  rcases compile_cases text placing with ⟨-, -, faulty⟩ | ⟨-, sound⟩
  · rw [same] at faulty
    exact absurd rfl faulty
  · rw [same] at sound ⊢
    exact ⟨rfl, sound.ne_empty⟩

/-- Every text compiles, to the empty path or to one that is well formed for where its populate
steps are carried out; it is not empty just if the first token is a start that compiles. Where they
are carried out makes no difference to the diagnostics. A text that must not have any gives its path
just if it has none, and that path is not empty. -/
theorem compile_wellFormed (text : String) :
    (∀ placing, (compile text placing).1 = .empty ∨
      WellFormed placing (compile text placing).1) ∧
    (∀ placing, (compile text placing).1 ≠ .empty ↔
      ∃ first rest start, tokens text.toList = first :: rest ∧
        keyword? first = some .start ∧ compileAnchor first = .ok start) ∧
    (compile text .atEnd).2 = (compile text .inPlace).2 ∧
    (∀ placing, (∃ path, compileStrict text placing = .ok path) ↔
      (compile text placing).2 = []) ∧
    ∀ placing path, compileStrict text placing = .ok path →
      path = (compile text placing).1 ∧ path ≠ .empty := by
  refine ⟨?_, compile_ne_empty_iff text, ?_, exists_compileStrict_iff text, ?_⟩
  · intro placing
    exact (compile_cases text placing).imp (fun broken => broken.2.1) (fun sound => sound.2)
  · rw [compile_atEnd]
  · intro placing path succeeds
    exact compileStrict_ne_empty succeeds

end Path

end PageHarvest
