import PageHarvest.Path.Compile

/-! # Where populate steps are carried out

Gathering the populate steps of a path leaves the other steps in order and sets all names at the
end: each name once, in the order in which the names first appear, with the field given last.
-/

namespace PageHarvest

/-- The names that a step sets and what it reads for them. -/
def Step.settings : Step → List (String × FieldSpec)
  | .populate fields => fields.entries
  | .descend _ | .find _ => []

namespace FieldMap

variable {α : Type}

theorem setAll_append (m : FieldMap α) (first second : List (String × α)) :
    m.setAll (first ++ second) = (m.setAll first).setAll second :=
  List.foldl_append

private theorem setEntry_ne_nil (name : String) (value : α) (entries : List (String × α)) :
    setEntry name value entries ≠ [] := by
  cases entries with
  | nil => exact List.cons_ne_nil _ _
  | cons entry rest => rw [setEntry]; split <;> exact List.cons_ne_nil _ _

private theorem isEmpty_set (m : FieldMap α) (name : String) (value : α) :
    (m.set name value).isEmpty = false :=
  List.isEmpty_eq_false_iff.mpr (setEntry_ne_nil name value m.entries)

theorem isEmpty_setAll_of_ne_nil (m : FieldMap α) {pairs : List (String × α)}
    (given : pairs ≠ []) : (m.setAll pairs).isEmpty = false := by
  rw [← List.dropLast_concat_getLast given, setAll_append]
  exact isEmpty_set _ _ _

end FieldMap

namespace Path

/-- The path with its populate steps gathered at the end. -/
def gathered : Path → Path
  | .empty => .empty
  | .anchored start steps =>
    let settings := steps.flatMap Step.settings
    .anchored start (steps.filter (!isPopulate ·) ++
      if settings = [] then [] else [.populate (.ofList settings)])

private theorem foldl_setAll (steps : List Step) (fields : FieldMap FieldSpec) :
    steps.foldl (fun fields step => fields.setAll step.settings) fields =
      fields.setAll (steps.flatMap Step.settings) := by
  induction steps generalizing fields with
  | nil => rfl
  | cons step rest ih =>
    rw [List.foldl_cons, ih, List.flatMap_cons, FieldMap.setAll_append]

private theorem populated_eq_ofList (steps : List Step) :
    populated steps = .ofList (steps.flatMap Step.settings) := by
  refine Eq.trans ?_ (foldl_setAll steps .empty)
  rw [populated]
  congr 1
  funext fields step
  cases step with
  | descend | populate | find => rfl

/-- Merging the populate steps gathers them. -/
theorem anchored_mergePopulates (start : Anchor) (steps : List Step) :
    Path.anchored start (mergePopulates steps) = gathered (.anchored start steps) := by
  rw [mergePopulates, gathered, populated_eq_ofList]
  by_cases nothing : steps.flatMap Step.settings = []
  · simp only [nothing, if_true]
    rfl
  · simp only [nothing, if_false, FieldMap.ofList, FieldMap.isEmpty_setAll_of_ne_nil _ nothing,
      Bool.false_eq_true]

end Path

end PageHarvest
