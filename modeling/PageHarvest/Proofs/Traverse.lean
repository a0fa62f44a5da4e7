import Mathlib.Data.List.Forall2

/-! # Traversing lists with work that may fail

A traversal succeeds exactly when the work succeeds on every element, and fails with the first
element on which it does.
-/

namespace PageHarvest

variable {ε α β : Type} {f : α → Except ε β}

/-- Work in two parts that succeeds succeeds in both. -/
theorem exists_of_bind_eq_ok {work : Except ε α} {result : β} (succeeds : work >>= f = .ok result) :
    ∃ value, work = .ok value ∧ f value = .ok result := by
  cases work with
  | error fault => cases succeeds
  | ok value => exact ⟨value, rfl, succeeds⟩

theorem exists_of_map_eq_ok {work : Except ε α} {g : α → β} {result : β}
    (succeeds : work.map g = .ok result) : ∃ value, work = .ok value ∧ g value = result := by
  cases work with
  | error fault => cases succeeds
  | ok value =>
    cases succeeds
    exact ⟨value, rfl, rfl⟩

theorem eq_ok_of_mapError {ε' : Type} {work : Except ε α} {change : ε → ε'} {value : α}
    (succeeds : work.mapError change = .ok value) : work = .ok value := by
  cases work with
  | error fault => cases succeeds
  | ok found => exact congrArg Except.ok (Except.ok.inj succeeds)

/-- A traversal succeeds exactly when the work does on every element. -/
theorem mapM_eq_ok_iff {list : List α} {values : List β} :
    list.mapM f = .ok values ↔ List.Forall₂ (fun one value => f one = .ok value) list values := by
  constructor
  · intro succeeds
    induction list generalizing values with
    | nil =>
      cases succeeds
      exact .nil
    | cons one rest ih =>
      rw [List.mapM_cons] at succeeds
      rcases first : f one with fault | value
      · rw [first] at succeeds
        cases succeeds
      · rcases others : rest.mapM f with fault | more
        · rw [first, others] at succeeds
          cases succeeds
        · rw [first, others] at succeeds
          cases succeeds
          exact .cons first (ih others)
  · intro each
    induction each with
    | nil => rfl
    | cons first _ ih =>
      rw [List.mapM_cons, first, ih]
      rfl

/-- What stands in the second of two lists has a partner in the first. -/
theorem exists_of_mem_forall₂ {R : α → β → Prop} {list : List α} {values : List β}
    (each : List.Forall₂ R list values) {value : β} (member : value ∈ values) :
    ∃ one ∈ list, R one value := by
  induction each with
  | nil => cases member
  | cons first others ih =>
    rcases List.mem_cons.mp member with rfl | later
    · exact ⟨_, List.mem_cons_self, first⟩
    · obtain ⟨one, among, related⟩ := ih later
      exact ⟨one, List.mem_cons_of_mem _ among, related⟩

/-- Every value comes from an element. -/
theorem exists_of_mem_mapM {list : List α} {values : List β} (succeeds : list.mapM f = .ok values)
    {value : β} (member : value ∈ values) : ∃ one ∈ list, f one = .ok value :=
  exists_of_mem_forall₂ (mapM_eq_ok_iff.mp succeeds) member

/-- The same for work that gives a value or nothing. -/
theorem exists_of_mem_mapM_some {g : α → Option β} {list : List α} {values : List β}
    (succeeds : list.mapM g = some values) {value : β} (member : value ∈ values) :
    ∃ one ∈ list, g one = some value := by
  induction list generalizing values with
  | nil =>
    cases succeeds
    cases member
  | cons one rest ih =>
    rw [List.mapM_cons] at succeeds
    obtain ⟨first, found, succeeds⟩ := Option.bind_eq_some_iff.mp succeeds
    obtain ⟨others, later, succeeds⟩ := Option.bind_eq_some_iff.mp succeeds
    cases succeeds
    rcases List.mem_cons.mp member with rfl | among
    · exact ⟨one, List.mem_cons_self, found⟩
    · obtain ⟨origin, below, gives⟩ := ih later among
      exact ⟨origin, List.mem_cons_of_mem _ below, gives⟩

theorem mem_of_mapM_eq_ok {list : List α} {values : List β} (succeeds : list.mapM f = .ok values)
    {one : α} {value : β} (member : one ∈ list) (gives : f one = .ok value) : value ∈ values := by
  have each := mapM_eq_ok_iff.mp succeeds
  induction each with
  | nil => cases member
  | cons first others ih =>
    rcases List.mem_cons.mp member with rfl | later
    · obtain rfl := Except.ok.inj (gives.symm.trans first)
      exact List.mem_cons_self
    · exact List.mem_cons_of_mem _ (ih (mapM_eq_ok_iff.mpr others) later)

theorem exists_mapM_eq_ok_and {P : β → Prop} {list : List α}
    (sound : ∀ one ∈ list, ∃ value, f one = .ok value ∧ P value) :
    ∃ values, list.mapM f = .ok values ∧ ∀ value ∈ values, P value := by
  induction list with
  | nil => exact ⟨[], rfl, List.forall_mem_nil _⟩
  | cons one rest ih =>
    obtain ⟨value, first, holds⟩ := sound one List.mem_cons_self
    obtain ⟨values, others, hold⟩ := ih fun other member =>
      sound other (List.mem_cons_of_mem _ member)
    refine ⟨value :: values, ?_, List.forall_mem_cons.mpr ⟨holds, hold⟩⟩
    rw [List.mapM_cons, first, others]
    rfl

/-- A traversal succeeds if the work does on every element. -/
theorem exists_mapM_eq_ok {list : List α} (sound : ∀ one ∈ list, ∃ value, f one = .ok value) :
    ∃ values, list.mapM f = .ok values := by
  obtain ⟨values, succeeds, -⟩ := exists_mapM_eq_ok_and (P := fun _ => True) fun one member =>
    (sound one member).imp fun _ found => ⟨found, trivial⟩
  exact ⟨values, succeeds⟩

theorem forM_eq_ok {list : List α} {f : α → Except ε Unit} (each : ∀ one ∈ list, f one = .ok ()) :
    list.forM f = .ok () := by
  induction list with
  | nil => rfl
  | cons one rest ih =>
    rw [List.forall_mem_cons] at each
    change f one >>= _ = _
    rw [each.1]
    exact ih each.2

theorem mapM_append_eq_ok {first second : List α} {values more : List β}
    (one : first.mapM f = .ok values) (other : second.mapM f = .ok more) :
    (first ++ second).mapM f = .ok (values ++ more) := by
  rw [List.mapM_append, one, other]
  rfl

theorem mapM_cons_eq_ok_iff {one : α} {rest : List α} {values : List β} :
    (one :: rest).mapM f = .ok values ↔
      ∃ value more, f one = .ok value ∧ rest.mapM f = .ok more ∧ value :: more = values := by
  rw [mapM_eq_ok_iff, List.forall₂_cons_left_iff]
  simp only [mapM_eq_ok_iff, eq_comm (a := values)]

theorem mapM_append_eq_ok_iff {first second : List α} {values : List β} :
    (first ++ second).mapM f = .ok values ↔
      ∃ some more, first.mapM f = .ok some ∧ second.mapM f = .ok more ∧ some ++ more = values := by
  constructor
  · intro succeeds
    rw [List.mapM_append] at succeeds
    obtain ⟨some, one, succeeds⟩ := exists_of_bind_eq_ok succeeds
    obtain ⟨more, other, succeeds⟩ := exists_of_bind_eq_ok succeeds
    exact ⟨some, more, one, other, Except.ok.inj succeeds⟩
  · rintro ⟨some, more, one, other, rfl⟩
    exact mapM_append_eq_ok one other

/-- A traversal fails with the first element on which the work does. -/
theorem mapM_eq_error {done rest : List α} {one : α} {fault : ε}
    (sound : ∀ other ∈ done, ∃ value, f other = .ok value) (breaks : f one = .error fault) :
    (done ++ one :: rest).mapM f = .error fault := by
  obtain ⟨values, succeeds⟩ := exists_mapM_eq_ok sound
  rw [List.mapM_append, succeeds, List.mapM_cons, breaks]
  rfl

/-- Work that looks at its state first goes on with the state that it found. -/
theorem run_get_bind {σ : Type} (next : σ → ExceptT ε (StateM σ) α) (state : σ) :
    (get >>= next).run.run state = (next state).run.run state :=
  rfl

theorem run_bind_of {σ : Type} {work : ExceptT ε (StateM σ) α} {next : α → ExceptT ε (StateM σ) β}
    {state middle : σ} {value : α} (ran : work.run.run state = (.ok value, middle)) :
    (work >>= next).run.run state = (next value).run.run middle := by
  rw [ExceptT.run_bind, StateT.run_bind, ran]
  rfl

theorem run_bind_of_error {σ : Type} {work : ExceptT ε (StateM σ) α}
    {next : α → ExceptT ε (StateM σ) β} {state middle : σ} {fault : ε}
    (ran : work.run.run state = (.error fault, middle)) :
    (work >>= next).run.run state = (.error fault, middle) := by
  rw [ExceptT.run_bind, StateT.run_bind, ran]
  rfl

end PageHarvest
