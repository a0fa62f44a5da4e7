import Mathlib.Data.List.Induction
import PageHarvest.Proofs.Path.Placing

/-! # What setting names leaves behind

Setting pairs one after the other leaves each name once, where it was first set, with the value
that it was given last.
-/

namespace PageHarvest

theorem mem_of_lookup {κ α : Type} [BEq κ] [LawfulBEq κ] {pairs : List (κ × α)} {key : κ}
    {value : α}
    (found : pairs.lookup key = some value) : (key, value) ∈ pairs := by
  obtain ⟨before, after, rfl, -⟩ := List.lookup_eq_some_iff.mp found
  exact List.mem_append_right _ List.mem_cons_self

theorem lookup_of_mem {κ α : Type} [BEq κ] [LawfulBEq κ] {pairs : List (κ × α)}
    (distinct : (pairs.map Prod.fst).Nodup) {key : κ} {value : α} (member : (key, value) ∈ pairs) :
    pairs.lookup key = some value := by
  obtain ⟨before, after, rfl⟩ := List.append_of_mem member
  refine List.lookup_eq_some_iff.mpr ⟨before, after, rfl, fun other earlier => ?_⟩
  rw [List.map_append, List.map_cons] at distinct
  have apart := (List.nodup_append.mp distinct).2.2 other.1 (List.mem_map_of_mem earlier) key
    (List.mem_cons_self ..)
  simpa using apart.symm

namespace FieldMap

variable {α β : Type}

/-! ## One name -/

private theorem names_set (m : FieldMap α) (name : String) (value : α) :
    (m.set name value).names = if name ∈ m.names then m.names else m.names ++ [name] :=
  names_setEntry name value m.entries

theorem lookup_pair (name other : String) (value : α) (rest : List (String × α)) :
    ((name, value) :: rest).lookup other =
      if other = name then some value else rest.lookup other := by
  rw [List.lookup_cons]
  by_cases same : other = name
  · rw [if_pos same, beq_iff_eq.mpr same]
  · rw [if_neg same, beq_eq_false_iff_ne.mpr same]

/-- Setting one name gives that name the value and leaves the others alone. -/
theorem get?_set (m : FieldMap α) (name other : String) (value : α) :
    (m.set name value).get? other = if other = name then some value else m.get? other := by
  simp only [get?, set]
  induction m.entries with
  | nil => rw [setEntry, lookup_pair]
  | cons entry rest ih =>
    obtain ⟨first, old⟩ := entry
    rw [setEntry]
    by_cases here : first = name
    · rw [if_pos here, lookup_pair, lookup_pair, here]
      split
      · rfl
      · rfl
    · rw [if_neg here, lookup_pair, lookup_pair, ih]
      by_cases same : other = first
      · have differ : other ≠ name := fun equal => here (same.symm.trans equal)
        rw [if_pos same, if_neg differ, if_pos same]
      · rw [if_neg same, if_neg same]

theorem mem_setEntry {κ : Type} [DecidableEq κ] {entries : List (κ × α)} {name : κ} {value : α}
    {entry : κ × α} (member : entry ∈ setEntry name value entries) :
    entry ∈ entries ∨ entry = (name, value) := by
  induction entries with
  | nil => exact .inr (List.mem_singleton.mp member)
  | cons first rest ih =>
    rw [setEntry] at member
    split at member
    · rcases List.mem_cons.mp member with same | later
      · exact .inr same
      · exact .inl (List.mem_cons_of_mem _ later)
    · rcases List.mem_cons.mp member with same | later
      · exact .inl (same ▸ List.mem_cons_self)
      · exact (ih later).imp_left (List.mem_cons_of_mem _)

private theorem mem_entries_set {m : FieldMap α} {name : String} {value : α} {entry : String × α}
    (member : entry ∈ (m.set name value).entries) : entry ∈ m.entries ∨ entry = (name, value) :=
  mem_setEntry member

/-! ## Many names -/

theorem ofList_concat (pairs : List (String × α)) (name : String) (value : α) :
    ofList (pairs ++ [(name, value)]) = (ofList pairs).set name value :=
  setAll_append empty pairs [(name, value)]

/-- Nothing is set that was not given. -/
theorem mem_of_mem_ofList {pairs : List (String × α)} {entry : String × α}
    (member : entry ∈ (ofList pairs).entries) : entry ∈ pairs := by
  induction pairs using List.reverseRecOn with
  | nil => exact member
  | append_singleton pairs last ih =>
    rw [ofList_concat] at member
    rcases mem_entries_set member with earlier | same
    · exact List.mem_append_left _ (ih earlier)
    · exact List.mem_append_right _ (List.mem_singleton.mpr same)

/-- Names stand in the order in which they first appear. -/
theorem names_ofList (pairs : List (String × α)) :
    (ofList pairs).names = (pairs.map Prod.fst).eraseDups := by
  induction pairs using List.reverseRecOn with
  | nil => rfl
  | append_singleton pairs last ih =>
    rw [ofList_concat, names_set, ih, List.map_append, List.map_singleton, List.eraseDups_append]
    by_cases known : last.1 ∈ pairs.map Prod.fst
    · rw [if_pos (List.mem_eraseDups.mpr known)]
      simp [List.removeAll, known]
    · rw [if_neg (fun member => known (List.mem_eraseDups.mp member))]
      simp [List.removeAll, known, List.eraseDups_cons]

/-- The value given last is the one that is kept, and one from before if none is given. -/
theorem get?_setAll (m : FieldMap α) (pairs : List (String × α)) (name : String) :
    (m.setAll pairs).get? name = (pairs.reverse.lookup name).or (m.get? name) := by
  induction pairs using List.reverseRecOn with
  | nil => rfl
  | append_singleton pairs last ih =>
    have step : m.setAll (pairs ++ [last]) = (m.setAll pairs).set last.1 last.2 :=
      setAll_append m pairs [last]
    rw [step, get?_set, ih, List.reverse_append, List.reverse_singleton, List.singleton_append,
      lookup_pair]
    split
    · rfl
    · rfl

/-- Of several values for a name the last one counts. -/
theorem get?_ofList (pairs : List (String × α)) (name : String) :
    (ofList pairs).get? name = pairs.reverse.lookup name := by
  rw [ofList, get?_setAll]
  exact Option.or_none

/-- Names that are set go behind those from before. -/
theorem names_prefix_setAll (m : FieldMap α) (pairs : List (String × α)) :
    m.names <+: (m.setAll pairs).names := by
  induction pairs generalizing m with
  | nil => exact List.prefix_refl _
  | cons pair rest ih =>
    have first : m.names <+: (m.set pair.1 pair.2).names := by
      rw [names_set]
      split
      · exact List.prefix_refl _
      · exact List.prefix_append _ _
    exact first.trans (ih _)

/-! ## Other values for the same names -/

/-- The same names with other values. -/
def mapValues (f : α → β) (m : FieldMap α) : FieldMap β where
  entries := m.entries.map fun entry => (entry.1, f entry.2)
  names_nodup := by
    rw [List.map_map]
    exact m.names_nodup

theorem names_mapValues (f : α → β) (m : FieldMap α) : (m.mapValues f).names = m.names :=
  List.map_map

theorem get?_mapValues (f : α → β) (m : FieldMap α) (name : String) :
    (m.mapValues f).get? name = (m.get? name).map f := by
  simp only [get?, mapValues]
  induction m.entries with
  | nil => rfl
  | cons entry rest ih =>
    obtain ⟨first, value⟩ := entry
    rw [List.map_cons, lookup_pair, lookup_pair, ih]
    split
    · rfl
    · rfl

private theorem mapValues_set (f : α → β) (m : FieldMap α) (name : String) (value : α) :
    (m.set name value).mapValues f = (m.mapValues f).set name (f value) := by
  apply ext_entries
  simp only [mapValues, set]
  induction m.entries with
  | nil => rfl
  | cons entry rest ih =>
    obtain ⟨first, old⟩ := entry
    rw [setEntry, List.map_cons, setEntry]
    split
    · rfl
    · rw [List.map_cons, ih]

theorem mapValues_ofList (f : α → β) (pairs : List (String × α)) :
    (ofList pairs).mapValues f = ofList (pairs.map fun pair => (pair.1, f pair.2)) := by
  induction pairs using List.reverseRecOn with
  | nil => rfl
  | append_singleton pairs last ih =>
    rw [List.map_append, List.map_singleton, ofList_concat, ofList_concat, mapValues_set, ih]

/-! ## Setting anew -/

/-- A new name goes last. -/
theorem setEntry_of_not_mem {κ : Type} [DecidableEq κ] {entries : List (κ × α)} {name : κ}
    (value : α) (fresh : name ∉ entries.map Prod.fst) :
    setEntry name value entries = entries ++ [(name, value)] := by
  induction entries with
  | nil => rfl
  | cons entry rest ih =>
    obtain ⟨first, old⟩ := entry
    rw [List.map_cons, List.mem_cons, not_or] at fresh
    rw [setEntry, if_neg (Ne.symm fresh.1), ih fresh.2, List.cons_append]

/-- A fresh name goes to the end. -/
theorem entries_set_of_not_mem {m : FieldMap α} {name : String} (value : α)
    (fresh : name ∉ m.names) : (m.set name value).entries = m.entries ++ [(name, value)] :=
  setEntry_of_not_mem value fresh

/-- Pairs with distinct names are kept as they are. -/
theorem entries_ofList {pairs : List (String × α)} (distinct : (pairs.map Prod.fst).Nodup) :
    (ofList pairs).entries = pairs := by
  induction pairs using List.reverseRecOn with
  | nil => rfl
  | append_singleton pairs last ih =>
    rw [List.map_append, List.map_singleton] at distinct
    obtain ⟨earlier, -, apart⟩ := List.nodup_append.mp distinct
    have fresh : last.1 ∉ (ofList pairs).names := by
      rw [names, ih earlier]
      intro member
      exact apart _ member _ (List.mem_singleton_self _) rfl
    rw [ofList_concat, entries_set_of_not_mem last.2 fresh, ih earlier]

/-- Setting the entries of a map anew gives the map. -/
theorem ofList_entries (m : FieldMap α) : ofList m.entries = m :=
  ext_entries (entries_ofList m.names_nodup)

/-! ## Names and their values -/

theorem get?_of_mem {m : FieldMap α} {name : String} {value : α}
    (member : (name, value) ∈ m.entries) :
    m.get? name = some value :=
  lookup_of_mem m.names_nodup member

theorem get?_eq_none_iff {m : FieldMap α} {name : String} :
    m.get? name = none ↔ name ∉ m.names := by
  rw [get?, List.lookup_eq_none_iff, names, List.mem_map, not_exists]
  simp only [bne_iff_ne, not_and]
  exact forall₂_congr fun entry _ => ne_comm

/-- Maps with the same names in the same order and the same values are the same. -/
theorem ext_get? {m n : FieldMap α} (names : m.names = n.names)
    (values : ∀ name, m.get? name = n.get? name) : m = n := by
  have paired (m : FieldMap α) :
      m.entries.map some = m.names.map fun name => (m.get? name).map (Prod.mk name) := by
    rw [FieldMap.names, List.map_map]
    refine List.map_congr_left fun entry member => ?_
    rw [Function.comp_apply, get?_of_mem member]
    rfl
  refine ext_entries ((List.map_inj_right fun _ _ => Option.some.inj).mp ?_)
  rw [paired m, paired n, names, funext values]

/-- Maps with the same values have the same names, in whatever order. -/
theorem names_perm {m n : FieldMap α} (values : ∀ name, m.get? name = n.get? name) :
    m.names.Perm n.names := by
  apply (List.perm_ext_iff_of_nodup m.names_nodup n.names_nodup).mpr
  intro name
  have same : name ∉ m.names ↔ name ∉ n.names := by
    rw [← get?_eq_none_iff, ← get?_eq_none_iff, values]
  exact not_iff_not.mp same

/-! ## Maps set on maps -/

private theorem setAll_eq_ofList (m : FieldMap α) (pairs : List (String × α)) :
    m.setAll pairs = ofList (m.entries ++ pairs) := by
  rw [ofList, setAll_append]
  exact congrArg (setAll · pairs) (ofList_entries m).symm

/-- New names go behind those that are there. -/
theorem names_setAll (m : FieldMap α) (pairs : List (String × α)) :
    (m.setAll pairs).names = (m.names ++ pairs.map Prod.fst).eraseDups := by
  rw [setAll_eq_ofList, names_ofList, List.map_append]
  rfl

/-- The second map wins. -/
theorem get?_merge (m n : FieldMap α) (name : String) :
    (m.merge n).get? name = (n.get? name).or (m.get? name) := by
  rw [merge, get?_setAll, ← get?_ofList, ofList_entries]

end FieldMap

end PageHarvest
