import Mathlib.Data.List.Infix
import PageHarvest.Project.Folder

/-! # The root of a project

The root is the nearest place upwards that holds a marker. It stays where it is while markers come
and go elsewhere, as long as no other place gets or loses one.
-/

namespace PageHarvest.Project

open Files

/-- Whether a place holds a file or a folder that marks the root of a project, or a link to one. -/
def HoldsMarker (tree : Tree) (place : Place) : Prop :=
  ∃ marker ∈ [".git", "pyproject.toml", ".pathcrawl", "requirements.txt"],
    tree.look (place ++ [marker]) ≠ none

/-- The nearest of a place and those above it that is marked; the place itself if none is. -/
inductive IsRoot (marked : Place → Prop) (here : Place) : Place → Prop where
  | marked {place : Place} (above : place <+: here) (holds : marked place)
      (nearest : ∀ other, other <+: here → marked other → other <+: place) :
      IsRoot marked here place
  | unmarked (none : ∀ place, place <+: here → ¬marked place) : IsRoot marked here here

section

variable {marked : Place → Prop} {here place other : Place} {tree tree' : Tree}

/-- The root of a project lies above the place from which it is looked for. -/
theorem IsRoot.above (isRoot : IsRoot marked here place) : place <+: here := by
  cases isRoot with
  | marked above => exact above
  | unmarked => exact List.prefix_refl _

private theorem IsRoot.unique (isRoot : IsRoot marked here place)
    (isRoot' : IsRoot marked here other) :
    place = other := by
  cases isRoot with
  | marked above holds nearest =>
    cases isRoot' with
    | marked above' holds' nearest' =>
      exact (nearest' place above holds).eq_of_length_le (nearest other above' holds').length_le
    | unmarked none => exact absurd holds (none place above)
  | unmarked none =>
    cases isRoot' with
    | marked above' holds' => exact absurd holds' (none other above')
    | unmarked => rfl

private theorem isMarked_iff : isMarked tree place = true ↔ HoldsMarker tree place := by
  simp only [isMarked, markers, HoldsMarker, List.any_eq_true, Tree.has, Option.isSome_iff_ne_none]

private theorem mem_upwards : place ∈ upwards here ↔ place <+: here := by
  rw [upwards, List.mem_map]
  constructor
  · rintro ⟨n, -, rfl⟩
    exact List.take_prefix _ _
  · intro above
    have short := above.length_le
    refine ⟨here.length - place.length, List.mem_range.mpr (by omega), ?_⟩
    rw [Nat.sub_sub_self short]
    exact (List.prefix_iff_eq_take.mp above).symm

/-- Going upwards every place comes before those above it. -/
theorem pairwise_upwards (here : Place) :
    (upwards here).Pairwise fun lower upper => upper <+: lower := by
  rw [upwards, List.pairwise_map]
  refine List.pairwise_lt_range.imp fun {n m} less => ?_
  exact List.take_prefix_take_left (by omega)

/-- The root that is found is the root. -/
theorem isRoot_root (tree : Tree) (here : Place) :
    IsRoot (HoldsMarker tree) here (root tree here) := by
  rw [root]
  cases found : (upwards here).find? (isMarked tree) with
  | none =>
    refine .unmarked fun place above holds => ?_
    exact List.find?_eq_none.mp found place (mem_upwards.mpr above) (isMarked_iff.mpr holds)
  | some place =>
    obtain ⟨holds, lower, upper, whole, passed⟩ := List.find?_eq_some_iff_append.mp found
    have order := pairwise_upwards here
    rw [whole, List.pairwise_append, List.pairwise_cons] at order
    have among : place ∈ upwards here := whole ▸ List.mem_append_right _ List.mem_cons_self
    refine .marked (mem_upwards.mp among) (isMarked_iff.mp holds) fun other above holds' => ?_
    have among' := mem_upwards.mpr above
    rw [whole, List.mem_append, List.mem_cons] at among'
    obtain before | rfl | behind := among'
    · have unmarked := passed other before
      rw [isMarked_iff.mpr holds'] at unmarked
      cases unmarked
    · exact List.prefix_refl _
    · exact order.2.1.1 other behind

/-- The root stays where it is if it keeps its marker and no other place on the way gets or loses
one. -/
theorem root_eq_of_marks
    (apart : ∀ place, place <+: here → place ≠ root tree here →
      (HoldsMarker tree' place ↔ HoldsMarker tree place))
    (kept : HoldsMarker tree (root tree here) → HoldsMarker tree' (root tree here)) :
    root tree' here = root tree here := by
  refine (isRoot_root tree' here).unique ?_
  have isRoot := isRoot_root tree here
  generalize root tree here = place at apart kept isRoot
  cases isRoot with
  | marked above holds nearest =>
    refine .marked above (kept holds) fun other above' holds' => ?_
    by_cases same : other = place
    · rw [same]
    · exact nearest other above' ((apart other above' same).mp holds')
  | unmarked none =>
    by_cases here' : HoldsMarker tree' here
    · exact .marked (List.prefix_refl _) here' fun other above _ => above
    · refine .unmarked fun other above holds => ?_
      have differs : other ≠ here := fun same => here' (same ▸ holds)
      exact none other above ((apart other above differs).mp holds)

end

end PageHarvest.Project
