import PageHarvest.Config.Basic
import PageHarvest.Proofs.Validate.Faithful

/-! # Configurations that pass their check

A configuration passes field by field, each under its own name, and nothing else in the data counts.
What passes has a worker at least and ends later than it starts, and any configuration that does
passes as itself.
-/

namespace PageHarvest

open Validate Validate.Checked

variable {α : Type}

namespace Validate

variable {check : Check α} {form : α → Json} {json : Json}

/-- Null passes as nothing, and data of a value as that value. -/
theorem orNull_sound {value : Option α} (solid : ∀ given, form given ≠ .null)
    (passes : ∀ given, value = some given → check (form given) = .sound given) :
    orNull check ((value.map form).getD .null) = .sound value := by
  cases value with
  | none => rfl
  | some given =>
    have sound := map_sound some (passes given rfl)
    change orNull check (form given) = _
    rw [orNull]
    · exact sound
    · exact solid given

theorem orNull_text (value : Option String) : orNull text (.ofString? value) = .sound value := by
  cases value with
  | none => rfl
  | some given => rfl

private theorem of_orNull {given : α} (passes : orNull check json = .sound (some given)) :
    check json = .sound given := by
  cases json with
  | null => cases passes
  | _ =>
    obtain ⟨_, passes, same⟩ := Checked.map_eq_sound_iff.mp passes
    cases same
    exact passes

theorem integerFrom_eq_sound_iff {bound n : Int} :
    integerFrom bound json = .sound n ↔ integer json = .sound n ∧ bound ≤ n := by
  rw [integerFrom, andThen_eq_sound_iff]
  constructor
  · rintro ⟨m, passes, bounded⟩
    split at bounded
    · cases bounded
      exact ⟨passes, by assumption⟩
    · cases bounded
  · rintro ⟨passes, bounded⟩
    exact ⟨n, passes, if_pos bounded⟩

private theorem positive_eq_sound_iff {x : Float} :
    positive json = .sound x ↔ number json = .sound x ∧ 0 < x := by
  rw [positive, andThen_eq_sound_iff]
  constructor
  · rintro ⟨y, passes, bounded⟩
    split at bounded
    · cases bounded
      exact ⟨passes, by assumption⟩
    · cases bounded
  · rintro ⟨passes, bounded⟩
    exact ⟨x, passes, if_pos bounded⟩

end Validate

namespace CrawlConfig

variable {config : CrawlConfig} {members others : List (String × Json)}

/-- What holds of the values of a configuration, other than by their types. -/
structure Valid (config : CrawlConfig) : Prop where
  workers : 1 ≤ config.workers
  deadline : ∀ limit, config.deadline = some limit → 0 < limit

/-- The names of the fields, in order. -/
def fieldNames : List String :=
  ["populator", "base_url", "paths", "link_path", "paging", "max_pages", "link_prefix", "fields",
    "parallel", "workers", "deadline"]

theorem mem_fieldNames {name : String} {value : Json}
    (given : config.toJson.get? name = some value) : name ∈ fieldNames := by
  have member := List.mem_map_of_mem (f := Prod.fst) (mem_of_lookup given)
  exact member

/-- The members of flat data that are read as the fields of a configuration. -/
structure Gives (members : List (String × Json)) (config : CrawlConfig) : Prop where
  populator : optional members "populator" "single" text = .sound config.populator
  baseUrl : required members "base_url" text = .sound config.baseUrl
  paths : optional members "paths" [] (list text) = .sound config.paths
  linkPath : optional members "link_path" none (orNull text) = .sound config.linkPath
  paging : optional members "paging" none (orNull text) = .sound config.paging
  maxPages : optional members "max_pages" none (orNull natural) = .sound config.maxPages
  linkPrefix : optional members "link_prefix" none (orNull text) = .sound config.linkPrefix
  fields : optional members "fields" .empty (map text) = .sound config.fields
  parallel : optional members "parallel" true bool = .sound config.parallel
  workers : optional members "workers" 8 (integerFrom 1) = .sound config.workers
  deadline : optional members "deadline" none (orNull positive) = .sound config.deadline

/-- Members pass their checks exactly when they give the configuration. -/
theorem checkMembers_eq_sound_iff :
    checkMembers members = .sound config ↔ Gives members config := by
  constructor
  · intro passes
    simp only [checkMembers, seq_eq_sound_iff, Checked.map_eq_sound_iff] at passes
    obtain ⟨_, deadline, ⟨_, workers, ⟨_, parallel, ⟨_, fields, ⟨_, linkPrefix, ⟨_, maxPages,
      ⟨_, paging, ⟨_, linkPath, ⟨_, paths, ⟨_, baseUrl, ⟨populator, first, rfl⟩, second, rfl⟩,
        third, rfl⟩, fourth, rfl⟩, fifth, rfl⟩, sixth, rfl⟩, seventh, rfl⟩, eighth, rfl⟩,
          ninth, rfl⟩, tenth, rfl⟩, last, rfl⟩ := passes
    exact ⟨first, second, third, fourth, fifth, sixth, seventh, eighth, ninth, tenth, last⟩
  · intro gives
    rw [checkMembers, gives.populator, gives.baseUrl, gives.paths, gives.linkPath, gives.paging,
      gives.maxPages, gives.linkPrefix, gives.fields, gives.parallel, gives.workers, gives.deadline]
    rfl

private theorem Gives.valid (gives : Gives members config) : config.Valid where
  workers := by
    obtain ⟨-, usual⟩ | ⟨json, -, passes⟩ := optional_eq_sound_iff.mp gives.workers
    · rw [← usual]
      decide
    · exact (integerFrom_eq_sound_iff.mp passes).2
  deadline limit given := by
    obtain ⟨-, usual⟩ | ⟨json, -, passes⟩ := optional_eq_sound_iff.mp gives.deadline
    · rw [given] at usual
      cases usual
    · rw [given] at passes
      exact (positive_eq_sound_iff.mp (of_orNull passes)).2

/-- Data that has the data of every field gives the fields. -/
theorem gives_of_lookup (valid : config.Valid)
    (given : ∀ name value,
      config.toJson.get? name = some value → members.lookup name = some value) :
    Gives members config where
  populator := optional_sound (given "populator" _ rfl) rfl
  baseUrl := required_sound (given "base_url" _ rfl) rfl
  paths := optional_sound (given "paths" _ rfl) ((faithful_text.list _).passes _)
  linkPath := optional_sound (given "link_path" _ rfl) (orNull_text _)
  paging := optional_sound (given "paging" _ rfl) (orNull_text _)
  maxPages := optional_sound (given "max_pages" _ rfl)
    (orNull_sound nofun fun n _ => faithful_natural.passes n)
  linkPrefix := optional_sound (given "link_prefix" _ rfl) (orNull_text _)
  fields := optional_sound (given "fields" _ rfl) (faithful_text.map.passes _)
  parallel := optional_sound (given "parallel" _ rfl) rfl
  workers := optional_sound (given "workers" _ rfl)
    (integerFrom_eq_sound_iff.mpr ⟨rfl, valid.workers⟩)
  deadline := optional_sound (given "deadline" _ rfl)
    (orNull_sound nofun fun limit some =>
      positive_eq_sound_iff.mpr ⟨rfl, valid.deadline limit some⟩)

/-- Only the members that are fields count. -/
theorem checkMembers_congr
    (same : ∀ name ∈ fieldNames, members.lookup name = others.lookup name) :
    checkMembers members = checkMembers others := by
  have each := same
  simp only [fieldNames, List.forall_mem_cons] at each
  obtain ⟨h1, h2, h3, h4, h5, h6, h7, h8, h9, h10, h11, -⟩ := each
  simp only [checkMembers, Validate.optional, Validate.required, h1, h2, h3, h4, h5, h6, h7, h8, h9,
    h10, h11]

/-! ## Configurations from data -/

theorem check_object_of_flatten (flattened : Config.flatten members = .ok others) :
    check (.object members) = .ok (checkMembers others) := by
  rw [check, Json.members?]
  dsimp only
  rw [flattened]

theorem check_object_of_flat (flat : members.lookup "meta" = none) :
    check (.object members) = .ok (checkMembers members) :=
  check_object_of_flatten (by rw [Config.flatten, flat])

/-- A configuration is valid just if some data passes as it. -/
theorem valid_iff : config.Valid ↔ ∃ json, check json = .ok (.sound config) := by
  constructor
  · intro valid
    refine ⟨config.toJson, ?_⟩
    rw [toJson, check_object_of_flat rfl]
    exact congrArg _ (checkMembers_eq_sound_iff.mpr (gives_of_lookup valid fun _ _ given => given))
  · rintro ⟨json, passes⟩
    unfold check at passes
    split at passes
    · split at passes
      · exact (checkMembers_eq_sound_iff.mp (Except.ok.inj passes)).valid
      · cases passes
      · cases passes
    · cases passes

end CrawlConfig

end PageHarvest
