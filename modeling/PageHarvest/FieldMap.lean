/-! # Named values in order of first setting

A field map holds one value per name. Setting a name again replaces its value and keeps its place;
a new name goes last. Merging sets the names of the second map one by one.
-/

namespace PageHarvest

/-- Values by name, each name once, in the order in which the names were first set. -/
structure FieldMap (α : Type) where
  entries : List (String × α)
  names_nodup : (entries.map Prod.fst).Nodup

namespace FieldMap

variable {α : Type}

/-- Two maps with the same entries are the same map. -/
theorem ext_entries {m n : FieldMap α} (same : m.entries = n.entries) : m = n := by
  cases m; cases n; cases same; rfl

instance [DecidableEq α] : DecidableEq (FieldMap α) := fun m n =>
  if same : m.entries = n.entries then isTrue (ext_entries same)
  else isFalse fun h => same (congrArg entries h)

/-- The map without names. -/
def empty : FieldMap α := ⟨[], by simp⟩

instance : Inhabited (FieldMap α) := ⟨empty⟩

/-- Sets one entry of a list of pairs in place, or appends it. -/
def setEntry {κ : Type} [DecidableEq κ] (name : κ) (value : α) : List (κ × α) → List (κ × α)
  | [] => [(name, value)]
  | (other, old) :: rest =>
    if other = name then (name, value) :: rest else (other, old) :: setEntry name value rest

theorem names_setEntry {κ : Type} [DecidableEq κ] (name : κ) (value : α)
    (entries : List (κ × α)) :
    (setEntry name value entries).map Prod.fst =
      if name ∈ entries.map Prod.fst then entries.map Prod.fst
      else entries.map Prod.fst ++ [name] := by
  induction entries with
  | nil => simp [setEntry]
  | cons entry rest ih =>
    obtain ⟨other, old⟩ := entry
    by_cases same : other = name
    · simp [setEntry, same]
    · have differ : name ≠ other := fun h => same h.symm
      simp only [setEntry, if_neg same, List.map_cons, List.mem_cons, differ, false_or, ih]
      split <;> simp

/-- Gives `name` the value, keeping its place if it has one. -/
def set (m : FieldMap α) (name : String) (value : α) : FieldMap α where
  entries := setEntry name value m.entries
  names_nodup := by
    rw [names_setEntry]
    split
    · exact m.names_nodup
    · rename_i absent
      rw [List.nodup_append]
      exact ⟨m.names_nodup, by simp, fun a ha b hb => by
        rw [List.mem_singleton] at hb; subst hb; exact fun h => absent (h ▸ ha)⟩

def names (m : FieldMap α) : List String := m.entries.map Prod.fst

def get? (m : FieldMap α) (name : String) : Option α := m.entries.lookup name

def contains (m : FieldMap α) (name : String) : Bool := (m.get? name).isSome

def setAll (m : FieldMap α) (pairs : List (String × α)) : FieldMap α :=
  pairs.foldl (fun m (name, value) => m.set name value) m

/-- The pairs set one after the other on an empty map. -/
def ofList (pairs : List (String × α)) : FieldMap α := empty.setAll pairs

def single (name : String) (value : α) : FieldMap α := ⟨[(name, value)], by simp⟩

/-- Sets every entry of `n` on `m`. -/
def merge (m n : FieldMap α) : FieldMap α := m.setAll n.entries

def size (m : FieldMap α) : Nat := m.entries.length

/-- Whether no name is set. -/
def isEmpty (m : FieldMap α) : Bool := m.entries.isEmpty

end FieldMap

end PageHarvest
