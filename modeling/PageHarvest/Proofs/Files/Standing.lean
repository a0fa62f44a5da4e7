import Mathlib.Data.List.Infix
import PageHarvest.Proofs.Files.Tree

/-! # Places where somebody stands

Below a place on the way to which all is a folder, the names of a place lead there and nowhere else
unless a link stands among them. Where none does, a folder can be made just if no file is in the
way, and then nothing but the folders on the way to it is new.
-/

namespace PageHarvest.Files

/-- A name that leads down. -/
def LeadsDown (name : String) : Prop := staysHere name = false ∧ name ≠ ".."

instance (name : String) : Decidable (LeadsDown name) :=
  inferInstanceAs (Decidable (_ ∧ _))

/-- A place where somebody can stand: its names lead down, and all on the way to it are folders. -/
structure Tree.Standing (tree : Tree) (here : Place) : Prop where
  down : ∀ name ∈ here, LeadsDown name
  folders : ∀ above, above <+: here → tree.at? above = some .folder

instance (tree : Tree) (here : Place) : Decidable (tree.Standing here) :=
  decidable_of_iff ((∀ name ∈ here, LeadsDown name) ∧
      ∀ above ∈ here.inits, tree.at? above = some .folder)
    ⟨fun ⟨down, folders⟩ => ⟨down, fun above up => folders above (List.mem_inits _ _ |>.mpr up)⟩,
      fun ⟨down, folders⟩ => ⟨down, fun above up => folders above (List.mem_inits _ _ |>.mp up)⟩⟩

section

variable {here base place : Place} {name : String} {names : List String} {tree tree' shown : Tree}

/-! ## Names that lead down -/

theorem step_of_leadsDown (down : LeadsDown name) (here : Place) :
    step here name = here ++ [name] := by
  rw [step, down.1, if_neg (by decide), if_neg down.2]

private theorem goal_of_leadsDown (down : ∀ name ∈ names, LeadsDown name) (here : Place) :
    goal here names = here ++ names := by
  induction names generalizing here with
  | nil => exact (List.append_nil here).symm
  | cons name rest ih =>
    obtain ⟨first, later⟩ := List.forall_mem_cons.mp down
    have tail := ih later (here ++ [name])
    rw [List.append_assoc] at tail
    rw [goal, List.foldl_cons, step_of_leadsDown first]
    exact tail

/-- Names that lead down visit nothing but places on the way to their goal. -/
theorem exists_of_mem_visits (down : ∀ name ∈ names, LeadsDown name)
    (visited : place ∈ visits here names) : ∃ front, front <+: names ∧ place = here ++ front := by
  induction names generalizing here with
  | nil => cases visited
  | cons name rest ih =>
    obtain ⟨first, later⟩ := List.forall_mem_cons.mp down
    rw [visits, step_of_leadsDown first, List.mem_cons] at visited
    obtain rfl | visited := visited
    · exact ⟨[name], ⟨rest, rfl⟩, rfl⟩
    · obtain ⟨front, part, rfl⟩ := ih later visited
      exact ⟨name :: front, List.cons_prefix_cons.mpr ⟨rfl, part⟩, by simp⟩

/-! ## Where somebody stands -/

/-- Where a place stands, those above it do. -/
theorem Tree.Standing.above (stands : tree.Standing here) (above : base <+: here) :
    tree.Standing base where
  down name member := stands.down name (above.subset member)
  folders other up := stands.folders other (up.trans above)

/-- A folder inside a place that stands does so itself. -/
theorem Tree.Standing.concat (stands : tree.Standing here) (down : LeadsDown name)
    (folder : tree.at? (here ++ [name]) = some .folder) : tree.Standing (here ++ [name]) where
  down other member := by
    obtain inside | last := List.mem_append.mp member
    · exact stands.down other inside
    · exact List.mem_singleton.mp last ▸ down
  folders above up := by
    obtain rfl | up := List.prefix_concat_iff.mp up
    · exact folder
    · exact stands.folders above up

private theorem Tree.Standing.visits (stands : tree.Standing here) :
    ∀ place ∈ visits [] here, tree.at? place = some .folder := by
  intro place visited
  obtain ⟨front, part, same⟩ := exists_of_mem_visits stands.down visited
  rw [same]
  exact stands.folders front part

/-- From where somebody stands a name leads down, unless to a link. -/
theorem Tree.Standing.follow (stands : tree.Standing here) (down : LeadsDown name)
    (solid : ∀ target, tree.at? (here ++ [name]) ≠ some (.link target)) :
    tree.follow [] (here ++ [name]) = .ok (here ++ [name]) := by
  have names : ∀ other ∈ here ++ [name], LeadsDown other := by
    rw [List.forall_mem_append, List.forall_mem_singleton]
    exact ⟨stands.down, down⟩
  have folders : ∀ stop ∈ stops [] (here ++ [name]), tree.at? stop = some .folder := by
    intro stop stopped
    rw [stops_append, List.mem_append] at stopped
    obtain rfl | visited := mem_stops_or_eq_goal.mp (stopped.imp_right List.mem_singleton.mp)
    · exact Tree.at?_nil tree
    · exact stands.visits stop visited
  have plain : tree.Plain [] (here ++ [name]) := by
    intro place visited target
    rcases mem_stops_or_eq_goal.mpr (.inr visited) with stopped | rfl
    · simp [folders place stopped]
    · rw [goal_of_leadsDown names]
      exact solid target
  exact (Tree.follow_eq_ok plain).mpr ⟨folders, goal_of_leadsDown names []⟩

/-- What is seen there is what stands there. -/
theorem Tree.Standing.look (stands : tree.Standing here) (down : LeadsDown name)
    (solid : ∀ target, tree.at? (here ++ [name]) ≠ some (.link target)) :
    tree.look (here ++ [name]) = tree.at? (here ++ [name]) := by
  rw [Tree.look, stands.follow down solid]

/-- Where somebody stands a file can be written, unless a folder or a link has its name. -/
theorem Tree.Standing.takes (stands : tree.Standing here) (down : LeadsDown name)
    (bare : tree.at? (here ++ [name]) ≠ some .folder)
    (solid : ∀ target, tree.at? (here ++ [name]) ≠ some (.link target)) (shown : Tree) :
    tree.Takes (.ofPlace shown (here ++ [name])) (here ++ [name]) where
  leads := by
    have given : here ++ [name] ≠ [] := List.append_ne_nil_of_right_ne_nil _ (by simp)
    obtain ⟨first, rest, same⟩ := List.exists_cons_of_ne_nil given
    have somewhere : (Location.ofPlace shown (here ++ [name])).path.isEmpty = false := by
      simp [Location.ofPlace, Location.path, same]
    rw [Tree.find, somewhere]
    exact stands.follow down solid
  bare := bare
  solid := solid
  asFile := by
    have last : (Location.ofPlace shown (here ++ [name])).names.getLast? = some name :=
      List.getLast?_concat
    rw [Location.endsAsFolder, last]
    split
    · next same =>
      cases same
      exact absurd down.1 (by decide)
    · next same =>
      cases same
      exact absurd down.1 (by decide)
    · rfl

/-! ## Folders below -/

variable {making : Making}

/-- No file stood in the way of folders that were made, if no link did. -/
theorem clear_of_run_makeAlong {shown : List String} (plain : tree.Plain here names)
    (made : (makeAlong making here shown names).run.run tree = (.ok (), tree')) :
    ∀ place ∈ visits here names, tree.Clear place := by
  induction names generalizing here shown tree with
  | nil => exact List.forall_mem_nil _
  | cons name rest ih =>
    obtain ⟨first, later⟩ := List.forall_mem_cons.mp plain
    rw [visits, List.forall_mem_cons]
    cases stands : tree.at? (step here name) with
    | none =>
      rw [run_makeAlong_none stands] at made
      have put := Tree.at?_put (by simp [stands] : tree.at? (step here name) ≠ some .folder)
      have plain' : (tree.put (step here name) .folder).Plain (step here name) rest := by
        intro place visited target
        rw [put]
        split
        · exact fun same => by cases same
        · exact later place visited target
      refine ⟨.inl stands, fun place visited => ?_⟩
      have clear := ih plain' made place visited
      rw [Tree.Clear, put] at clear
      split at clear
      · rename_i same
        exact .inl (same ▸ stands)
      · exact clear
    | some entry =>
      cases entry with
      | folder =>
        rw [run_makeAlong_folder stands] at made
        exact ⟨.inr stands, ih later made⟩
      | file content =>
        rw [run_makeAlong_file stands] at made
        cases (Prod.mk.inj made).1
      | link target => exact absurd stands (first target)

/-- Folders are made from where the first one is missing. -/
theorem run_makeAlong_append {front : List String} {shown : List String}
    (folders : ∀ place ∈ visits here front, tree.at? place = some .folder) :
    (makeAlong making here shown (front ++ names)).run.run tree =
      (makeAlong making (goal here front) (shown ++ front) names).run.run tree := by
  induction front generalizing here shown with
  | nil => rw [List.nil_append, List.append_nil]; rfl
  | cons name rest ih =>
    rw [visits, List.forall_mem_cons] at folders
    rw [List.cons_append, run_makeAlong_folder folders.1, ih folders.2, List.append_assoc]
    rfl

private theorem run_makeFolder_of_standing (stands : tree.Standing base) (shown : Tree)
    (names : List String) :
    (makeFolder making (.ofPlace shown (base ++ names))).run.run tree =
      (makeAlong making base (shown.top :: base) names).run.run tree := by
  rw [makeFolder, Location.ofPlace, run_makeAlong_append stands.visits,
    goal_of_leadsDown stands.down]
  rfl

/-- Making a folder where one stands changes nothing. -/
theorem run_makeFolder_standing (stands : tree.Standing here) (shown : Tree) :
    (makeFolder making (.ofPlace shown here)).run.run tree = (.ok (), tree) := by
  have run : (makeFolder making (.ofPlace shown (here ++ []))).run.run tree = _ :=
    run_makeFolder_of_standing stands shown []
  rwa [List.append_nil] at run

/-- What making folders comes to below a place where somebody stands: nothing else was in the way,
there is a folder at each of the places, and everything else is as before. -/
structure Tree.Opens (before : Tree) (places : List Place) (after : Tree) : Prop where
  top : after.top = before.top
  clear : ∀ place ∈ places, before.Clear place
  folders : ∀ place, after.at? place = if place ∈ places then some .folder else before.at? place

/-- Making a folder opens the places on the way to it and changes nothing else. -/
theorem opens_of_run_makeFolder (stands : tree.Standing base) (plain : tree.Plain base names)
    (made : (makeFolder making (.ofPlace shown (base ++ names))).run.run tree = (.ok (), tree')) :
    tree.Opens (visits base names) tree' := by
  rw [run_makeFolder_of_standing stands] at made
  have grows := (within_makeAlong making (fun _ => True) base (shown.top :: base) names).grows tree
  have clear := clear_of_run_makeAlong plain made
  obtain ⟨other, made', folders⟩ := run_makeAlong making clear (shown.top :: base)
  obtain rfl : tree' = other := (Prod.mk.inj (made.symm.trans made')).2
  rw [made] at grows
  exact ⟨grows.top, clear, folders⟩

end

end PageHarvest.Files
