import PageHarvest.Proofs.Config.Loading

/-! # The nested layout means the flat one

Data with a nested part is read as the flat data in which the whole wins over its nested part and
the first name of the link prefix over the second. So a configuration comes back from its data
however that is divided between the whole and the nested part.
-/

namespace PageHarvest.CrawlConfig

open Config

variable {config : CrawlConfig} {data inner flat : FieldMap Json}

/-- The data of each field stands in the whole, or is absent there and stands in the nested part;
the link prefix may have its second name there. Anything else may stand there as well. -/
def Divided (config : CrawlConfig) (data inner : FieldMap Json) : Prop :=
  ∀ name value, config.toJson.get? name = some value →
    data.get? name = some value ∨ data.get? name = none ∧
      (inner.get? name = some value ∨
        name = prefixName ∧ inner.get? prefixName = none ∧ inner.get? prefixAlias = some value)

private theorem Divided.value (divided : Divided config data inner) {name : String} {value : Json}
    (given : config.toJson.get? name = some value) :
    (data.get? name).or (innerValue? inner name) = some value := by
  obtain whole | ⟨absent, part | ⟨rfl, absent', part⟩⟩ := divided name value given
  · rw [whole]
    rfl
  · rw [absent, Option.none_or, innerValue?]
    split
    · rename_i same
      rw [← same, part]
      rfl
    · exact part
  · rw [absent, Option.none_or, innerValue?, if_pos rfl, absent', part]
    rfl

private theorem plain_of_mem_fieldNames {name : String} (field : name ∈ fieldNames) :
    name ≠ "meta" ∧ name ≠ prefixAlias := by
  revert name
  decide

/-- A configuration comes back from its data, divided in any way. -/
theorem ofJson_divided (nested : data.get? "meta" = some (.object inner.entries))
    (valid : config.Valid) (divided : Divided config data inner) :
    ofJson (.object data.entries) = .ok config := by
  obtain ⟨flat, flattened, values⟩ := exists_flatten nested
  have gives : Gives flat config := gives_of_lookup valid fun name value given => by
    obtain ⟨outer, plain⟩ := plain_of_mem_fieldNames (mem_fieldNames given)
    rw [values name outer plain, divided.value given]
  rw [ofJson_eq_ok_iff, check_object_of_flatten flattened]
  exact congrArg _ (checkMembers_eq_sound_iff.mpr gives)

/-- Data with a nested part is read as any flat data in which the fields have the same values. -/
theorem ofJson_flat (nested : data.get? "meta" = some (.object inner.entries))
    (bare : flat.get? "meta" = none)
    (values : ∀ name ∈ fieldNames, flat.get? name = (data.get? name).or (innerValue? inner name)) :
    ofJson (.object data.entries) = ofJson (.object flat.entries) := by
  obtain ⟨members, flattened, given⟩ := exists_flatten nested
  have same : checkMembers members = checkMembers flat.entries :=
    checkMembers_congr fun name field => by
      obtain ⟨outer, plain⟩ := plain_of_mem_fieldNames field
      rw [given name outer plain, ← values name field]
      rfl
  rw [ofJson, ofJson, check_object_of_flat bare, check_object_of_flatten flattened, ← same]

/-- Data with a nested part means the flat data in which the whole wins over its nested part and the
first name of the link prefix over the second, whether it is accepted or not. A valid configuration
comes back from its data, however that is divided. -/
theorem ofJson_nested (nested : data.get? "meta" = some (.object inner.entries)) :
    (∀ config : CrawlConfig, config.Valid → Divided config data inner →
        ofJson (.object data.entries) = .ok config) ∧
      ∀ flat : FieldMap Json, flat.get? "meta" = none →
        (∀ name ∈ fieldNames, flat.get? name = (data.get? name).or (innerValue? inner name)) →
        ofJson (.object data.entries) = ofJson (.object flat.entries) :=
  ⟨fun _ valid divided => ofJson_divided nested valid divided,
    fun _ bare values => ofJson_flat nested bare values⟩

/-- A nested part with the link prefix under its second name, and workers that do not count. -/
def sampleInner : FieldMap Json where
  entries := [("base_url", .string "https://x.test/list"),
    ("prepend_links", .string "https://x.test"),
    ("workers", .int 2), ("paths", .array []), ("link_path", .string "a"), ("paging", .null),
    ("max_pages", .null), ("fields", .object []), ("parallel", .bool false), ("deadline", .null)]
  names_nodup := by decide

/-- Data with that part. -/
def sampleData : FieldMap Json where
  entries := [("workers", .int 4), ("meta", .object sampleInner.entries),
    ("populator", .string "multiple")]
  names_nodup := by decide

/-- The same data in the flat layout. -/
def sampleFlat : FieldMap Json where
  entries := [("populator", .string "multiple"), ("base_url", .string "https://x.test/list"),
    ("link_prefix", .string "https://x.test"), ("workers", .int 4), ("paths", .array []),
    ("link_path", .string "a"), ("paging", .null), ("max_pages", .null), ("fields", .object []),
    ("parallel", .bool false), ("deadline", .null)]
  names_nodup := by decide

theorem ofJson_nested_sample :
    ofJson (.object sampleData.entries) = .ok {
        populator := "multiple", baseUrl := "https://x.test/list", linkPath := some "a",
        linkPrefix := some "https://x.test", parallel := false, workers := 4 } ∧
      ofJson (.object sampleData.entries) = ofJson (.object sampleFlat.entries) := by
  have nested : sampleData.get? "meta" = some (.object sampleInner.entries) := rfl
  refine ⟨(ofJson_nested nested).1 _ ⟨by decide, fun limit given => ?_⟩ ?_,
    (ofJson_nested nested).2 sampleFlat rfl ?_⟩
  · cases given
  · intro name value given
    have member := mem_of_lookup given
    simp only [List.mem_cons, Prod.mk.injEq, List.not_mem_nil, or_false] at member
    rcases member with ⟨rfl, rfl⟩ | ⟨rfl, rfl⟩ | ⟨rfl, rfl⟩ | ⟨rfl, rfl⟩ | ⟨rfl, rfl⟩ | ⟨rfl, rfl⟩ |
      ⟨rfl, rfl⟩ | ⟨rfl, rfl⟩ | ⟨rfl, rfl⟩ | ⟨rfl, rfl⟩ | ⟨rfl, rfl⟩
    all_goals first
      | exact .inl rfl
      | exact .inr ⟨rfl, .inl rfl⟩
      | exact .inr ⟨rfl, .inr ⟨rfl, rfl, rfl⟩⟩
  · simp only [fieldNames, List.forall_mem_cons]
    exact ⟨rfl, rfl, rfl, rfl, rfl, rfl, rfl, rfl, rfl, rfl, rfl, List.forall_mem_nil _⟩

end PageHarvest.CrawlConfig
