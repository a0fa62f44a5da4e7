import PageHarvest.Proofs.FieldMap
import PageHarvest.Proofs.Traverse
import PageHarvest.Validate.Checked

/-! # What passes a check

A check that is put together from others gives a value exactly when its parts do. Each way of
putting checks together has one lemma that says from which values of its parts a value comes.
-/

namespace PageHarvest.Validate

variable {α β : Type}

namespace Checked

/-! ## Checked values -/

theorem map_eq_sound_iff {f : α → β} {checked : Checked α} {b : β} :
    f <$> checked = .sound b ↔ ∃ a, checked = .sound a ∧ f a = b := by
  cases checked with
  | sound a => simp [Functor.map, map]
  | unsound issues => simp [Functor.map, map]

/-- A checked function applied to a checked value is sound exactly when both are. -/
theorem seq_eq_sound_iff {f : Checked (α → β)} {checked : Checked α} {b : β} :
    f <*> checked = .sound b ↔ ∃ g a, f = .sound g ∧ checked = .sound a ∧ g a = b := by
  cases f with
  | sound g => cases checked <;> simp [Seq.seq, apply]
  | unsound issues => cases checked <;> simp [Seq.seq, apply]

theorem map_sound {checked : Checked α} {a : α} (f : α → β) (passes : checked = .sound a) :
    f <$> checked = .sound (f a) :=
  map_eq_sound_iff.mpr ⟨a, passes, rfl⟩

theorem seq_sound {f : Checked (α → β)} {checked : Checked α} {g : α → β} {a : α}
    (one : f = .sound g) (other : checked = .sound a) : f <*> checked = .sound (g a) :=
  seq_eq_sound_iff.mpr ⟨g, a, one, other, rfl⟩

/-- A further check passes exactly when both do. -/
theorem andThen_eq_sound_iff {checked : Checked α} {next : α → Checked β} {b : β} :
    checked.andThen next = .sound b ↔ ∃ a, checked = .sound a ∧ next a = .sound b := by
  cases checked with
  | sound a => simp [andThen]
  | unsound issues => simp [andThen]

private theorem under_eq_sound_iff {key : Key} {checked : Checked α} {a : α} :
    checked.under key = .sound a ↔ checked = .sound a := by
  cases checked with
  | sound b => rfl
  | unsound issues => simp [under]

private theorem fail_ne_sound {cause : Cause} {a : α} : (fail cause : Checked α) ≠ .sound a := nofun

/-- A list passes entry by entry. -/
theorem all_eq_sound_iff {check : β → Checked α} {entries : List β} {values : List α} :
    all check entries = .sound values ↔
      List.Forall₂ (fun entry value => check entry = .sound value) entries values := by
  induction entries generalizing values with
  | nil => cases values <;> simp [all]
  | cons entry rest ih =>
    rw [all, seq_eq_sound_iff, List.forall₂_cons_left_iff]
    constructor
    · rintro ⟨cons, tail, first, later, rfl⟩
      obtain ⟨value, passes, rfl⟩ := map_eq_sound_iff.mp first
      exact ⟨value, tail, passes, ih.mp later, rfl⟩
    · rintro ⟨value, tail, passes, later, rfl⟩
      exact ⟨_, tail, map_eq_sound_iff.mpr ⟨value, passes, rfl⟩, ih.mpr later, rfl⟩

end Checked

open Checked

/-! ## Members -/

variable {members : List (String × Json)} {name : String} {check : Check α} {value : α}
  {json : Json}

/-- An object passes as a model exactly when its members do. -/
theorem model_eq_sound_iff {check : List (String × Json) → Checked α} :
    model name check json = .sound value ↔
      ∃ members, json.members? = some members ∧ check members = .sound value := by
  rw [model]
  cases json.members? <;> simp [fail_ne_sound]

theorem model_of_members {check : List (String × Json) → Checked α}
    (known : json.members? = some members) : model name check json = check members := by
  rw [model, known]

/-- A member that must be there passes exactly when it is there and does. -/
theorem required_eq_sound_iff :
    required members name check = .sound value ↔
      ∃ json, members.lookup name = some json ∧ check json = .sound value := by
  rw [required, under_eq_sound_iff]
  cases members.lookup name <;> simp [fail_ne_sound]

theorem required_sound (given : members.lookup name = some json)
    (passes : check json = .sound value) : required members name check = .sound value :=
  required_eq_sound_iff.mpr ⟨json, given, passes⟩

/-- A member that may be left out passes when it is missing or does. -/
theorem optional_eq_sound_iff {default : α} :
    optional members name default check = .sound value ↔
      (members.lookup name = none ∧ default = value) ∨
        ∃ json, members.lookup name = some json ∧ check json = .sound value := by
  rw [optional]
  cases members.lookup name <;> simp [under_eq_sound_iff]

theorem optional_sound {default : α} (given : members.lookup name = some json)
    (passes : check json = .sound value) : optional members name default check = .sound value :=
  optional_eq_sound_iff.mpr (.inr ⟨json, given, passes⟩)

private theorem word_eq_sound_iff {words : List (String × α)} :
    word words json = .sound value ↔ ∃ s, json = .string s ∧ words.lookup s = some value := by
  cases json with
  | string s => cases found : words.lookup s <;> simp [word, found, fail_ne_sound]
  | _ => simp [word, fail_ne_sound]

private theorem ownKind_eq_sound_iff {kind : String} {done : Unit} :
    ownKind members kind = .sound done ↔
      members.lookup "kind" = none ∨ members.lookup "kind" = some (.string kind) := by
  rw [ownKind, optional_eq_sound_iff]
  constructor
  · rintro (⟨absent, -⟩ | ⟨json, found, passes⟩)
    · exact .inl absent
    · obtain ⟨s, rfl, known⟩ := word_eq_sound_iff.mp passes
      rw [FieldMap.lookup_pair] at known
      split at known
      · rename_i same
        exact .inr (same ▸ found)
      · cases known
  · rintro (absent | found)
    · exact .inl ⟨absent, rfl⟩
    · exact .inr ⟨_, found, word_eq_sound_iff.mpr ⟨kind, rfl, List.lookup_cons_self⟩⟩

theorem ownKind_sound {kind : String} (given : members.lookup "kind" = some (.string kind)) :
    ownKind members kind = .sound () :=
  ownKind_eq_sound_iff.mpr (.inr given)

/-- Data of a kind with one more member. -/
theorem ownKind_seq_eq_sound_iff {kind : String} {f : α → β} {checked : Checked α} {b : β} :
    (fun _ a => f a) <$> ownKind members kind <*> checked = .sound b ↔
      ∃ a, ownKind members kind = .sound () ∧ checked = .sound a ∧ f a = b := by
  rw [seq_eq_sound_iff]
  constructor
  · rintro ⟨g, a, own, passes, rfl⟩
    obtain ⟨_, named, rfl⟩ := Checked.map_eq_sound_iff.mp own
    exact ⟨a, named, passes, rfl⟩
  · rintro ⟨a, named, passes, rfl⟩
    exact ⟨_, a, map_sound _ named, passes, rfl⟩

/-! ## Alternatives -/

/-- Data of one of several models passes exactly as the model that it names says. -/
theorem oneOf_eq_sound_iff {cases : List (String × Check α)} :
    oneOf cases json = .sound value ↔
      ∃ members kind check, json.members? = some members ∧
        members.lookup "kind" = some (.string kind) ∧ cases.lookup kind = some check ∧
          check json = .sound value := by
  rw [oneOf]
  cases json.members? with
  | none => simp [fail_ne_sound]
  | some members =>
    cases given : members.lookup "kind" with
    | none => simp [given, fail_ne_sound]
    | some kind =>
      cases kind with
      | string kind =>
        cases known : cases.lookup kind <;>
          simp [given, known, fail_ne_sound, under_eq_sound_iff]
      | _ => simp [given, fail_ne_sound]

/-- Data of one of several models passes as data of the model that it names. -/
theorem oneOf_sound {cases : List (String × Check α)} {kind model : String}
    {build : List (String × Json) → Checked α}
    (object : json.members? = some members)
    (given : members.lookup "kind" = some (.string kind))
    (known : cases.lookup kind = some (Validate.model model build))
    (passes : build members = .sound value) : oneOf cases json = .sound value :=
  oneOf_eq_sound_iff.mpr
    ⟨members, kind, _, object, given, known, (model_of_members object).trans passes⟩

/-! ## Lists and maps -/

/-- A list passes exactly when each of its items does. -/
theorem list_eq_sound_iff {otherwise : Cause} {values : List α} :
    list check otherwise json = .sound values ↔
      ∃ items, json = .array items ∧
        List.Forall₂ (fun item value => check item = .sound value) items values := by
  cases json with
  | array items =>
    have numbered (start : Nat) :
        List.Forall₂ (fun (entry : Json × Nat) value =>
            (check entry.1).under (.index entry.2) = .sound value) (items.zipIdx start) values ↔
          List.Forall₂ (fun item value => check item = .sound value) items values := by
      simp only [under_eq_sound_iff]
      induction items generalizing start values with
      | nil => simp
      | cons item rest ih =>
        simp only [List.zipIdx_cons, List.forall₂_cons_left_iff, ih]
    simpa [list] using all_eq_sound_iff.trans (numbered 0)
  | _ => simp [list, fail_ne_sound]

/-- An object passes entry by entry as a map of its names. -/
theorem map_object_eq_sound_iff {fields : FieldMap α} :
    map check (.object members) = .sound fields ↔
      ∃ pairs, List.Forall₂ (fun (member : String × Json) (pair : String × α) =>
          member.1 = pair.1 ∧ check member.2 = .sound pair.2) members pairs ∧
        FieldMap.ofList pairs = fields := by
  have named (member : String × Json) (pair : String × α) :
      Prod.mk member.1 <$> (check member.2).under (.name member.1) = .sound pair ↔
        member.1 = pair.1 ∧ check member.2 = .sound pair.2 := by
    rw [Checked.map_eq_sound_iff]
    constructor
    · rintro ⟨value, passes, rfl⟩
      exact ⟨rfl, under_eq_sound_iff.mp passes⟩
    · rintro ⟨same, passes⟩
      exact ⟨pair.2, under_eq_sound_iff.mpr passes, by rw [same]⟩
  simp only [map, Checked.map_eq_sound_iff, all_eq_sound_iff, named]

/-- The values of an object. -/
def memberValues : Json → List Json
  | .object members => members.map Prod.snd
  | .tornObject members => members.map Prod.snd
  | _ => []

/-- Every value of a map has passed as the value of a member. -/
theorem exists_of_mem_map {fields : FieldMap α} (passes : map check json = .sound fields)
    {entry : String × α} (among : entry ∈ fields.entries) :
    ∃ item ∈ memberValues json, check item = .sound entry.2 := by
  cases json with
  | object members =>
    obtain ⟨pairs, each, rfl⟩ := map_object_eq_sound_iff.mp passes
    obtain ⟨member, found, -, passes⟩ :=
      exists_of_mem_forall₂ each (FieldMap.mem_of_mem_ofList among)
    exact ⟨member.2, List.mem_map_of_mem found, passes⟩
  | tornObject members =>
    obtain ⟨pairs, all, rfl⟩ := Checked.map_eq_sound_iff.mp passes
    obtain ⟨member, found, one⟩ :=
      exists_of_mem_forall₂ (all_eq_sound_iff.mp all) (FieldMap.mem_of_mem_ofList among)
    obtain ⟨_, value, named, passed, same⟩ := seq_eq_sound_iff.mp one
    obtain ⟨name, -, rfl⟩ := Checked.map_eq_sound_iff.mp named
    exact ⟨member.2, List.mem_map_of_mem found, same ▸ under_eq_sound_iff.mp passed⟩
  | _ => exact absurd passes fail_ne_sound

end PageHarvest.Validate
