import PageHarvest.Proofs.Validate.Scalar

/-! # Checks of what was written

A check belongs to a form of data if it gives back every value whose data it is shown. With data
that can be written and read as text, values then come back from texts as well, as long as no whole
number in them has more digits than are read. Data that was read from a text has none, and checks
that only take numbers from their data keep it so.
-/

namespace PageHarvest

open Json Validate Validate.Checked

variable {α : Type} {check : Check α} {form : α → Json} {members : List (String × Json)}
  {name other : String} {json value : Json}

/-! ## Data with a few members -/

namespace Json

theorem tidy_pair (apart : name ≠ other) (one : Tidy json) (two : Tidy value) :
    Tidy (.object [(name, json), (other, value)]) :=
  .object (by simpa using apart)
    (List.forall_mem_cons.mpr ⟨one, List.forall_mem_singleton.mpr two⟩)

theorem tidy_single (one : Tidy json) : Tidy (.object [(name, json)]) :=
  .object (by simp) (List.forall_mem_singleton.mpr one)

theorem brief_single (one : Brief json) : Brief (.object [(name, json)]) :=
  .object (List.forall_mem_singleton.mpr one)

theorem brief_pair (one : Brief json) (two : Brief value) :
    Brief (.object [(name, json), (other, value)]) :=
  .object (List.forall_mem_cons.mpr ⟨one, List.forall_mem_singleton.mpr two⟩)

theorem Brief.member (brief : Brief (.object members)) (found : members.lookup name = some json) :
    Brief json :=
  brief_object_iff.mp brief (name, json) (mem_of_lookup found)

theorem Brief.of_members? (brief : Brief json) (known : json.members? = some members) :
    Brief (.object members) := by
  cases brief with
  | object each =>
    cases known
    exact .object each
  | tornObject each =>
    cases known
    refine .object fun member among => ?_
    obtain ⟨origin, found, spells⟩ := List.mem_filterMap.mp among
    obtain ⟨_, -, rfl⟩ := Option.map_eq_some_iff.mp spells
    exact each origin found
  | _ => cases known

private theorem Brief.memberValues (brief : Brief json) :
    ∀ item ∈ memberValues json, Brief item := by
  cases brief with
  | object each => exact List.forall_mem_map.mpr each
  | tornObject each => exact List.forall_mem_map.mpr each
  | _ => exact List.forall_mem_nil _

end Json

namespace Validate

/-! ## Checks that keep whole numbers short -/

/-- What passes has no longer whole numbers than its data, as far as reading is concerned. -/
def KeepsBrief (check : Check α) (form : α → Json) : Prop :=
  ∀ json value, Brief json → check json = .sound value → Brief (form value)

theorem KeepsBrief.required (keeps : KeepsBrief check form) {value : α}
    (brief : Brief (.object members)) (passes : required members name check = .sound value) :
    Brief (form value) := by
  obtain ⟨json, found, passes⟩ := required_eq_sound_iff.mp passes
  exact keeps json value (brief.member found) passes

theorem KeepsBrief.optional (keeps : KeepsBrief check form) {default value : α}
    (brief : Brief (.object members)) (usual : Brief (form default))
    (passes : optional members name default check = .sound value) : Brief (form value) := by
  obtain ⟨-, rfl⟩ | ⟨json, found, passes⟩ := optional_eq_sound_iff.mp passes
  · exact usual
  · exact keeps json value (brief.member found) passes

/-! ## Checks and their data -/

/-- A check and the data that it belongs to: what is written passes as what it was written for. -/
structure Faithful (check : Check α) (form : α → Json) : Prop where
  passes : ∀ value, check (form value) = .sound value
  tidy : ∀ value, Tidy (form value)
  brief : KeepsBrief check form

theorem faithful_text : Faithful text .string where
  passes _ := rfl
  tidy := .string
  brief _ s _ _ := .string s

theorem faithful_natural : Faithful natural .nat where
  passes n := by
    simp [natural, integerFrom, integer, Json.nat, andThen, Functor.map, Checked.map]
  tidy n := .int n
  brief _ _ brief passes := .int (short_of_natural brief passes)

namespace Faithful

variable (faithful : Faithful check form)

include faithful

theorem list (otherwise : Cause) :
    Faithful (list check otherwise) fun values => .array (values.map form) where
  passes values := by
    refine list_eq_sound_iff.mpr ⟨_, rfl, ?_⟩
    rw [List.forall₂_map_left_iff]
    exact List.forall₂_same.mpr fun value _ => faithful.passes value
  tidy values := .array (List.forall_mem_map.mpr fun value _ => faithful.tidy value)
  brief json values brief passes := by
    obtain ⟨items, rfl, each⟩ := list_eq_sound_iff.mp passes
    have briefs := brief_array_iff.mp brief
    refine .array (List.forall_mem_map.mpr fun value member => ?_)
    obtain ⟨item, found, passes⟩ := exists_of_mem_forall₂ each member
    exact faithful.brief item value (briefs item found) passes

/-- Maps come back with their names in order. -/
theorem map : Faithful (map check) fun fields => .ofFields fields form where
  passes fields := by
    refine map_object_eq_sound_iff.mpr ⟨fields.entries, ?_, fields.ofList_entries⟩
    rw [List.forall₂_map_left_iff]
    exact List.forall₂_same.mpr fun entry _ => ⟨rfl, faithful.passes entry.2⟩
  tidy fields := by
    refine .object ?_ (List.forall_mem_map.mpr fun entry _ => faithful.tidy entry.2)
    rw [List.map_map]
    exact fields.names_nodup
  brief json fields brief passes := by
    refine .object (List.forall_mem_map.mpr fun entry among => ?_)
    obtain ⟨item, found, passes⟩ := exists_of_mem_map passes among
    exact faithful.brief item entry.2 (brief.memberValues item found) passes

end Faithful

/-! ## Texts of data -/

/-- Reads a text as JSON and checks the data. -/
def readAs (check : Check α) (text : String) : Except ReadError (Checked α) :=
  (Json.parse text).map check

namespace Faithful

variable (faithful : Faithful check form)

include faithful

/-- What is accepted from a text holds no overlong number. -/
theorem brief_of_readAs {text : String} {value : α}
    (accepted : readAs check text = .ok (.sound value)) : Brief (form value) := by
  obtain ⟨json, read, passes⟩ := exists_of_map_eq_ok accepted
  exact faithful.brief json value (brief_of_readWithin read) passes

/-- A value comes back from the text of its data, unless that holds a whole number of more digits
than are read. -/
theorem readAs_compact_iff (value : α) :
    readAs check (form value).compact = .ok (.sound value) ↔ Brief (form value) := by
  refine ⟨faithful.brief_of_readAs, fun brief => ?_⟩
  rw [readAs, (parse_compact_iff (faithful.tidy value)).mpr brief, Except.map, faithful.passes]

end Faithful

end Validate

end PageHarvest
