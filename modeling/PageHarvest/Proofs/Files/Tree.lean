import PageHarvest.Files.Tree
import PageHarvest.Proofs.Traverse

/-! # What work on a tree of files does

Names lead along stops to a goal, and where no link is on the way they can be followed exactly if
every stop is a folder. A file is written where its location leads; all else stays as it was, so the
location leads to the same file afterwards. Making folders takes none away and touches no file.
-/

namespace PageHarvest.Files

/-! ## Places in a tree -/

namespace Tree

variable {tree : Tree} {place : Place}

theorem at?_nil (tree : Tree) : tree.at? [] = some .folder := rfl

private theorem lookup_putIn (place other : Place) (entry : Entry)
    (entries : List (Place × Entry)) :
    (putIn place entry entries).lookup other =
      if other = place then some entry else entries.lookup other := by
  induction entries with
  | nil =>
    by_cases same : other = place
    · simp [putIn, same]
    · simp [putIn, same, List.lookup_cons, beq_false_of_ne same]
  | cons pair rest ih =>
    obtain ⟨p, e⟩ := pair
    by_cases here : p = place
    · subst here
      by_cases same : other = p
      · simp [putIn, same]
      · simp [putIn, same, List.lookup_cons, beq_false_of_ne same]
    · rw [putIn, if_neg here, List.lookup_cons, List.lookup_cons, ih]
      by_cases same : other = p
      · simp [same, here]
      · simp [beq_false_of_ne same]

/-- What stands in a tree after something was put where no folder stood. -/
theorem at?_put (bare : tree.at? place ≠ some .folder) (other : Place) (entry : Entry) :
    (tree.put place entry).at? other = if other = place then some entry else tree.at? other := by
  cases other with
  | nil =>
    have apart : [] ≠ place := fun same => bare (same ▸ at?_nil tree)
    rw [at?_nil, at?_nil, if_neg apart]
  | cons name rest =>
    simp only [at?, List.isEmpty_cons, Bool.false_eq_true, if_false, put]
    exact lookup_putIn place (name :: rest) entry tree.entries

end Tree

/-! ## Following names -/

/-- The places from which names lead on, one for each name. -/
def stops (here : Place) : List String → List Place
  | [] => []
  | name :: rest => here :: stops (step here name) rest

/-- The place to which names lead. -/
def goal (here : Place) (names : List String) : Place := names.foldl step here

/-- The places to which names lead one after the other. -/
def visits (here : Place) : List String → List Place
  | [] => []
  | name :: rest => step here name :: visits (step here name) rest

/-- No link stands where names lead. -/
def Tree.Plain (tree : Tree) (here : Place) (names : List String) : Prop :=
  ∀ place ∈ visits here names, ∀ target, tree.at? place ≠ some (.link target)

section

variable {tree : Tree} {jump : Place → List String → Except Fault Place} {here place : Place}
  {name : String} {names rest : List String}

theorem Tree.walk_of_not_link (folder : tree.at? here = some .folder)
    (plain : ∀ target, tree.at? (step here name) ≠ some (.link target)) :
    tree.walk jump here (name :: rest) = tree.walk jump (step here name) rest := by
  rw [walk, folder]
  dsimp only
  split
  · exact absurd ‹_› (plain _)
  · rfl

theorem Tree.walk_of_link {target : String} (folder : tree.at? here = some .folder)
    (stands : tree.at? (step here name) = some (.link target)) :
    tree.walk jump here (name :: rest) =
      jump (if target.startsWith "/" then [] else here) (Text.split "/" target ++ rest) := by
  rw [walk, folder]
  dsimp only
  rw [stands]

private theorem Tree.walk_of_not_folder (bare : tree.at? here ≠ some .folder) :
    ∃ fault, ∀ jump name rest, tree.walk jump here (name :: rest) = .error fault := by
  cases stands : tree.at? here with
  | none => exact ⟨.absent, fun jump name rest => by rw [walk, stands]⟩
  | some entry =>
    cases entry with
    | folder => exact absurd stands bare
    | file content => exact ⟨.noFolder, fun jump name rest => by rw [walk, stands]⟩
    | link target => exact ⟨.noFolder, fun jump name rest => by rw [walk, stands]⟩

private theorem Tree.walk_eq_ok (plain : tree.Plain here names) :
    tree.walk jump here names = .ok place ↔
      (∀ stop ∈ stops here names, tree.at? stop = some .folder) ∧ goal here names = place := by
  induction names generalizing here with
  | nil => simp [walk, stops, goal]
  | cons name rest ih =>
    obtain ⟨first, later⟩ := List.forall_mem_cons.mp plain
    by_cases folder : tree.at? here = some .folder
    · rw [walk_of_not_link folder first, ih later, stops, List.forall_mem_cons]
      simp [folder, goal]
    · obtain ⟨fault, fails⟩ := walk_of_not_folder folder
      simp [fails, stops, folder]

private theorem Tree.followWithin_eq (tree : Tree) (links : Nat) :
    ∃ jump, tree.followWithin links = tree.walk jump := by
  cases links with
  | zero => exact ⟨_, rfl⟩
  | succ links => exact ⟨_, rfl⟩

/-- Where no link is on the way, names lead to their goal through folders. -/
theorem Tree.follow_eq_ok (plain : tree.Plain here names) :
    tree.follow here names = .ok place ↔
      (∀ stop ∈ stops here names, tree.at? stop = some .folder) ∧ goal here names = place := by
  obtain ⟨jump, same⟩ := tree.followWithin_eq linkLimit
  rw [follow, same, walk_eq_ok plain]

/-- Following names is told step by step: there is no name left, a name leads down, or it leads to a
link, which takes one step of those that are left. -/
theorem Tree.followWithin_induction {motive : Place → List String → Prop}
    (done : motive place [])
    (down : ∀ here name rest, tree.at? here = some .folder →
      (∀ target, tree.at? (step here name) ≠ some (.link target)) →
      motive (step here name) rest → motive here (name :: rest))
    (jump : ∀ here name rest target, tree.at? here = some .folder →
      tree.at? (step here name) = some (.link target) →
      motive (if target.startsWith "/" then [] else here) (Text.split "/" target ++ rest) →
      motive here (name :: rest)) (links : Nat) :
    ∀ here names, tree.followWithin links here names = .ok place → motive here names := by
  have walks {next : Place → List String → Except Fault Place}
      (jumps : ∀ here names, next here names = .ok place → motive here names) :
      ∀ here names, tree.walk next here names = .ok place → motive here names := by
    intro here names leads
    induction names generalizing here with
    | nil =>
      cases leads
      exact done
    | cons name rest ih =>
      by_cases folder : tree.at? here = some .folder
      · by_cases linked : ∃ target, tree.at? (step here name) = some (.link target)
        · obtain ⟨target, stands⟩ := linked
          rw [walk_of_link folder stands] at leads
          exact jump here name rest target folder stands (jumps _ _ leads)
        · rw [not_exists] at linked
          rw [walk_of_not_link folder linked] at leads
          exact down here name rest folder linked (ih _ leads)
      · obtain ⟨fault, fails⟩ := walk_of_not_folder folder
        rw [fails] at leads
        cases leads
  -- on the number of links that may be followed still, each of which sets out anew
  induction links with
  | zero => exact walks fun _ _ leads => by cases leads
  | succ links ih => exact walks ih

end

private theorem stops_goal (here : Place) (names : List String) :
    stops here names ++ [goal here names] = here :: visits here names := by
  induction names generalizing here with
  | nil => rfl
  | cons name rest ih =>
    rw [stops, visits, List.cons_append, ← ih]
    rfl

/-- The stops on a way and its goal are where it begins and all that it visits. -/
theorem mem_stops_or_eq_goal {here place : Place} {names : List String} :
    place ∈ stops here names ∨ place = goal here names ↔
      place = here ∨ place ∈ visits here names := by
  rw [← List.mem_cons, ← stops_goal, List.mem_append, List.mem_singleton]

theorem stops_append (here : Place) (front back : List String) :
    stops here (front ++ back) = stops here front ++ stops (goal here front) back := by
  induction front generalizing here with
  | nil => rfl
  | cons name rest ih => simp [stops, ih, goal]

/-- A location that leads somewhere with no link on the way leads to the goal of its names. -/
theorem Tree.find_eq_ok {tree : Tree} {location : Location} {place : Place}
    (plain : tree.Plain location.start location.names) :
    tree.find location = .ok place ↔ location.path.isEmpty = false ∧
      (∀ stop ∈ stops location.start location.names, tree.at? stop = some .folder) ∧
      goal location.start location.names = place := by
  rw [find]
  cases nowhere : location.path.isEmpty with
  | true => simp
  | false => simp [follow_eq_ok plain]

theorem Tree.follow_of_find {tree : Tree} {location : Location} {place : Place}
    (leads : tree.find location = .ok place) :
    location.path.isEmpty = false ∧ tree.follow location.start location.names = .ok place := by
  rw [find] at leads
  cases nowhere : location.path.isEmpty with
  | true =>
    rw [nowhere, if_pos rfl] at leads
    cases leads
  | false =>
    rw [nowhere] at leads
    exact ⟨rfl, leads⟩

/-- What can be read where a location leads is a file there, unless the location ends like that of
a folder. -/
theorem Tree.read_eq_ok {tree : Tree} {location : Location} {place : Place} {content : Content}
    (leads : tree.find location = .ok place) : tree.read location = .ok content ↔
      tree.at? place = some (.file content) ∧ location.endsAsFolder = false := by
  simp only [read, leads, bind, Except.bind]
  cases tree.at? place with
  | none => simp
  | some entry =>
    cases entry with
    | folder => simp
    | link target => simp
    | file text => cases location.endsAsFolder <;> simp

/-! ## Trees that grow -/

/-- How a tree grows when files are written at some places only: no folder goes away, links stay as
they are, and all other files are as before. -/
structure Grows (only : Place → Prop) (before after : Tree) : Prop where
  top : after.top = before.top
  folders : ∀ {place}, before.at? place = some .folder → after.at? place = some .folder
  links : ∀ {place} target,
    after.at? place = some (.link target) ↔ before.at? place = some (.link target)
  files : ∀ {place}, ¬only place → ∀ content,
    after.at? place = some (.file content) ↔ before.at? place = some (.file content)

namespace Grows

variable {only more : Place → Prop} {before middle after : Tree}

private theorem refl (only : Place → Prop) (tree : Tree) : Grows only tree tree where
  top := rfl
  folders stands := stands
  links _ := Iff.rfl
  files _ _ := Iff.rfl

theorem trans (first : Grows only before middle) (second : Grows only middle after) :
    Grows only before after where
  top := second.top.trans first.top
  folders stands := second.folders (first.folders stands)
  links target := (second.links target).trans (first.links target)
  files other content := (second.files other content).trans (first.files other content)

private theorem mono (grows : Grows only before after) (fewer : ∀ place, only place → more place) :
    Grows more before after where
  top := grows.top
  folders := grows.folders
  links := grows.links
  files other := grows.files (mt (fewer _) other)

/-- Names still lead where they led. -/
theorem follow (grows : Grows only before after) {here place : Place} {names : List String}
    (leads : before.follow here names = .ok place) : after.follow here names = .ok place := by
  have walks {next next' : Place → List String → Except Fault Place}
      (jumps : ∀ here names, next here names = .ok place → next' here names = .ok place) :
      ∀ here names, before.walk next here names = .ok place →
        after.walk next' here names = .ok place := by
    intro here names leads
    induction names generalizing here with
    | nil => exact leads
    | cons name rest ih =>
      by_cases folder : before.at? here = some .folder
      · by_cases linked : ∃ target, before.at? (step here name) = some (.link target)
        · obtain ⟨target, stands⟩ := linked
          rw [Tree.walk_of_link folder stands] at leads
          rw [Tree.walk_of_link (grows.folders folder) ((grows.links target).mpr stands)]
          exact jumps _ _ leads
        · rw [not_exists] at linked
          rw [Tree.walk_of_not_link folder linked] at leads
          rw [Tree.walk_of_not_link (grows.folders folder)
            fun target stands => linked target ((grows.links target).mp stands)]
          exact ih _ leads
      · obtain ⟨fault, fails⟩ := Tree.walk_of_not_folder folder
        rw [fails] at leads
        cases leads
  have limited (links : Nat) : ∀ here names, before.followWithin links here names = .ok place →
      after.followWithin links here names = .ok place := by
    induction links with
    | zero => exact walks fun _ _ leads => by cases leads
    | succ links ih => exact walks ih
  exact limited Tree.linkLimit here names leads

/-- A location still leads where it led. -/
theorem find (grows : Grows only before after) {location : Location} {place : Place}
    (leads : before.find location = .ok place) : after.find location = .ok place := by
  obtain ⟨somewhere, follows⟩ := Tree.follow_of_find leads
  rw [Tree.find, somewhere]
  exact grows.follow follows

theorem put_file {tree : Tree} {place : Place} (content : Content)
    (bare : tree.at? place ≠ some .folder)
    (solid : ∀ target, tree.at? place ≠ some (.link target)) (here : only place) :
    Grows only tree (tree.put place (.file content)) where
  top := rfl
  folders {other} stands := by
    have apart : other ≠ place := fun same => bare (same ▸ stands)
    rwa [Tree.at?_put bare, if_neg apart]
  links {other} target := by
    rw [Tree.at?_put bare]
    split
    · rename_i same
      exact iff_of_false nofun (same ▸ solid target)
    · exact Iff.rfl
  files {other} untouched content := by
    have apart : other ≠ place := fun same => untouched (same ▸ here)
    rw [Tree.at?_put bare, if_neg apart]

/-- A folder where nothing stood is growth. -/
private theorem put_folder {tree : Tree} {place : Place} (free : tree.at? place = none) :
    Grows only tree (tree.put place .folder) where
  top := rfl
  folders {other} stands := by
    rw [Tree.at?_put (by simp [free])]
    split
    · rfl
    · exact stands
  links {other} target := by
    rw [Tree.at?_put (by simp [free])]
    split
    · rename_i same
      simp [same, free]
    · exact Iff.rfl
  files {other} _ content := by
    rw [Tree.at?_put (by simp [free])]
    split
    · rename_i same
      simp [same, free]
    · exact Iff.rfl

end Grows

/-- Whether no link stands at any of some places. -/
def Tree.Unlinked (tree : Tree) (only : Place → Prop) : Prop :=
  ∀ place, only place → ∀ target, tree.at? place ≠ some (.link target)

/-- Growth neither makes nor removes links. -/
theorem Grows.unlinked_iff {only more : Place → Prop} {before after : Tree}
    (grows : Grows more before after) : after.Unlinked only ↔ before.Unlinked only := by
  simp only [Tree.Unlinked, ne_eq, grows.links]

/-- Work that, whatever it comes to, writes files at some places only, unless a link stands at one
of them. -/
def Within {ε α : Type} (only : Place → Prop) (work : ExceptT ε (StateM Tree) α) : Prop :=
  ∀ tree : Tree, Grows (fun place => tree.Unlinked only → only place) tree (work.run.run tree).2

namespace Within

variable {ε ε' α β : Type} {only : Place → Prop} {work : ExceptT ε (StateM Tree) α} {tree : Tree}

theorem grows (within : Within only work) (tree : Tree) :
    Grows (fun _ => True) tree (work.run.run tree).2 :=
  (within tree).mono fun _ _ => trivial

theorem pure (value : α) : Within only (Pure.pure value : ExceptT ε (StateM Tree) α) :=
  fun tree => Grows.refl _ tree

theorem throw (fault : ε) : Within only (MonadExcept.throw fault : ExceptT ε (StateM Tree) α) :=
  fun tree => Grows.refl _ tree

theorem get : Within only (MonadState.get : ExceptT ε (StateM Tree) Tree) :=
  fun tree => Grows.refl _ tree

theorem bind {next : α → ExceptT ε (StateM Tree) β} (first : Within only work)
    (second : ∀ value, Within only (next value)) : Within only (work >>= next) := by
  intro tree
  have grows := first tree
  rw [ExceptT.run_bind, StateT.run_bind]
  cases ran : work.run.run tree with
  | mk outcome middle =>
    rw [ran] at grows
    cases outcome with
    | error fault => exact grows
    | ok value =>
      have grows' := second value middle
      rw [grows.unlinked_iff] at grows'
      exact grows.trans grows'

theorem adapt (rename : ε → ε') (within : Within only work) :
    Within only (ExceptT.adapt rename work) :=
  fun tree => within tree

end Within

/-- Work in two parts that succeeds succeeds in both. -/
theorem exists_of_run_bind {ε α β : Type} {work : ExceptT ε (StateM Tree) α}
    {next : α → ExceptT ε (StateM Tree) β} {tree after : Tree} {result : β}
    (succeeds : (work >>= next).run.run tree = (.ok result, after)) :
    ∃ value middle, work.run.run tree = (.ok value, middle) ∧
      (next value).run.run middle = (.ok result, after) := by
  rw [ExceptT.run_bind, StateT.run_bind] at succeeds
  cases ran : work.run.run tree with
  | mk outcome middle =>
    rw [ran] at succeeds
    cases outcome with
    | error fault => exact absurd (Prod.mk.inj succeeds).1 nofun
    | ok value => exact ⟨value, middle, rfl, succeeds⟩

theorem run_adapt {ε ε' α : Type} (rename : ε → ε') (work : ExceptT ε (StateM Tree) α)
    (tree : Tree) : (ExceptT.adapt rename work).run.run tree =
      ((work.run.run tree).1.mapError rename, (work.run.run tree).2) :=
  rfl

theorem run_of_run_adapt {ε ε' α : Type} {rename : ε → ε'} {work : ExceptT ε (StateM Tree) α}
    {tree after : Tree} {value : α}
    (succeeds : (ExceptT.adapt rename work).run.run tree = (.ok value, after)) :
    work.run.run tree = (.ok value, after) := by
  rw [run_adapt] at succeeds
  cases ran : work.run.run tree with
  | mk outcome middle =>
    rw [ran] at succeeds
    cases outcome with
    | error fault => exact absurd (Prod.mk.inj succeeds).1 nofun
    | ok value' =>
      obtain ⟨same, rfl⟩ := Prod.mk.inj succeeds
      rw [Except.ok.inj same]

/-! ## Files that are written -/

/-- A location at which a file can be written, and the place that it leads to. -/
structure Tree.Takes (tree : Tree) (location : Location) (place : Place) : Prop where
  leads : tree.find location = .ok place
  bare : tree.at? place ≠ some .folder
  solid : ∀ target, tree.at? place ≠ some (.link target)
  asFile : location.endsAsFolder = false

section

variable {tree : Tree} {location : Location} {place : Place}
  {f : Option Content → Content}

/-- The content of a file, if one stands at a place. -/
def Tree.content? (tree : Tree) (place : Place) : Option Content :=
  match tree.at? place with
  | some (.file content) => some content
  | _ => none

/-- Changing a file puts what it is to hold where its location leads, or does nothing. -/
theorem change_cases (tree : Tree) (location : Location) (f : Option Content → Content) :
    (∃ place, tree.Takes location place ∧ (change location f).run.run tree =
      (.ok (), tree.put place (.file (f (tree.content? place))))) ∨
    (∃ problem, (change location f).run.run tree = (.error problem, tree)) ∧
      ∀ place, ¬tree.Takes location place := by
  rw [change, run_get_bind]
  cases found : tree.find location with
  | error fault =>
    exact .inr ⟨⟨_, rfl⟩, fun place takes => absurd (found.symm.trans takes.leads) nofun⟩
  | ok place =>
    have same {place' : Place} (takes : tree.Takes location place') : place' = place :=
      (Except.ok.inj (found.symm.trans takes.leads)).symm
    have named (asFolder : location.endsAsFolder = true) (place' : Place) :
        ¬tree.Takes location place' := fun takes =>
      absurd (asFolder.symm.trans takes.asFile) nofun
    dsimp only
    cases stands : tree.at? place with
    | some entry =>
      cases entry with
      | folder =>
        exact .inr ⟨⟨_, rfl⟩, fun place' takes => takes.bare (same takes ▸ stands)⟩
      | link target =>
        exact .inr ⟨⟨_, rfl⟩, fun place' takes => takes.solid target (same takes ▸ stands)⟩
      | file content =>
        cases asFolder : location.endsAsFolder with
        | true => exact .inr ⟨⟨_, rfl⟩, named asFolder⟩
        | false =>
          refine .inl ⟨place, ⟨found, by simp [stands], by simp [stands], asFolder⟩, ?_⟩
          rw [Tree.content?, stands]
          rfl
    | none =>
      cases asFolder : location.endsAsFolder with
      | true => exact .inr ⟨⟨_, rfl⟩, named asFolder⟩
      | false =>
        refine .inl ⟨place, ⟨found, by simp [stands], by simp [stands], asFolder⟩, ?_⟩
        rw [Tree.content?, stands]
        rfl

/-- Where a location takes content, a change puts it at the place that the location leads to. -/
theorem change_of_takes (takes : tree.Takes location place) :
    (change location f).run.run tree =
      (.ok (), tree.put place (.file (f (tree.content? place)))) := by
  obtain ⟨place', takes', ran⟩ | ⟨-, none⟩ := change_cases tree location f
  · obtain rfl := Except.ok.inj (takes.leads.symm.trans takes'.leads)
    exact ran
  · exact absurd takes (none place)

/-- A change succeeds only where the location takes content. -/
theorem takes_of_change {tree' : Tree}
    (ran : (change location f).run.run tree = (.ok (), tree')) :
    ∃ place, tree.Takes location place ∧
      tree' = tree.put place (.file (f (tree.content? place))) := by
  obtain ⟨place, takes, ran'⟩ | ⟨⟨problem, failed⟩, -⟩ := change_cases tree location f
  · exact ⟨place, takes, (Prod.mk.inj (ran.symm.trans ran')).2⟩
  · exact absurd (Prod.mk.inj (ran.symm.trans failed)).1 nofun

/-- A change stays within the places to which its location leads. -/
theorem within_change {only : Place → Prop}
    (leads : ∀ tree place, Tree.find tree location = .ok place → tree.Unlinked only →
      only place) : Within only (change location f) := by
  intro tree
  obtain ⟨place, takes, ran⟩ | ⟨⟨problem, failed⟩, -⟩ := change_cases tree location f
  · rw [ran]
    exact Grows.put_file _ takes.bare takes.solid (leads tree place takes.leads)
  · rw [failed]
    exact Grows.refl _ tree

/-- After a file was written, its location leads to it still. -/
theorem Tree.Takes.put (takes : tree.Takes location place) (content : Content) :
    (tree.put place (.file content)).Takes location place where
  leads := by
    have grows : Grows (fun _ => True) tree (tree.put place (.file content)) :=
      Grows.put_file content takes.bare takes.solid trivial
    exact grows.find takes.leads
  bare := by simp [Tree.at?_put takes.bare]
  solid := by simp [Tree.at?_put takes.bare]
  asFile := takes.asFile

theorem Tree.Takes.at?_put (takes : tree.Takes location place) (content : Content) :
    (tree.put place (.file content)).at? place = some (.file content) := by
  rw [Tree.at?_put takes.bare, if_pos rfl]

/-- What was written is read again. -/
theorem Tree.Takes.read_put (takes : tree.Takes location place) (content : Content) :
    (tree.put place (.file content)).read location = .ok content :=
  (Tree.read_eq_ok (takes.put content).leads).mpr ⟨takes.at?_put content, takes.asFile⟩

end

/-! ## Folders that are made -/

section

variable {making : Making} {here there : Place} {shown names : List String} {name : String}
  {tree : Tree}

/-- A folder on the way is gone into. -/
theorem run_makeAlong_folder (stands : tree.at? (step here name) = some .folder) :
    (makeAlong making here shown (name :: names)).run.run tree =
      (makeAlong making (step here name) (shown ++ [name]) names).run.run tree := by
  rw [makeAlong, run_get_bind, stands]

/-- A folder that is missing on the way is made. -/
theorem run_makeAlong_none (free : tree.at? (step here name) = none) :
    (makeAlong making here shown (name :: names)).run.run tree =
      (makeAlong making (step here name) (shown ++ [name]) names).run.run
        (tree.put (step here name) .folder) := by
  rw [makeAlong, run_get_bind, free]
  rfl

/-- A file on the way blocks it. -/
theorem run_makeAlong_file {content : Content}
    (taken : tree.at? (step here name) = some (.file content)) (shown names : List String) :
    (makeAlong making here shown (name :: names)).run.run tree =
      (.error (blocked making (shown ++ [name]) .noFolder names), tree) := by
  rw [makeAlong, run_get_bind, taken]
  rfl

/-- A link on the way is followed to the folder that it leads to. -/
theorem run_makeAlong_link {target : String}
    (linked : tree.at? (step here name) = some (.link target)) (shown names : List String) :
    (makeAlong making here shown (name :: names)).run.run tree =
      match tree.follow here [name, "."] with
      | .ok folder => (makeAlong making folder (shown ++ [name]) names).run.run tree
      | .error fault => (.error (blocked making (shown ++ [name]) fault names), tree) := by
  rw [makeAlong, run_get_bind, linked]
  dsimp only
  cases tree.follow here [name, "."] with
  | ok folder => rfl
  | error fault => rfl

/-- Making folders leaves every file as it is. -/
theorem within_makeAlong (making : Making) (only : Place → Prop) (here : Place)
    (shown names : List String) : Within only (makeAlong making here shown names) := by
  induction names generalizing here shown with
  | nil => exact Within.pure ()
  | cons name rest ih =>
    intro tree
    cases stands : tree.at? (step here name) with
    | none =>
      have grows : Grows (fun place => tree.Unlinked only → only place) tree
          (tree.put (step here name) .folder) := Grows.put_folder stands
      have later := ih (step here name) (shown ++ [name]) (tree.put (step here name) .folder)
      rw [grows.unlinked_iff] at later
      rw [run_makeAlong_none stands]
      exact grows.trans later
    | some entry =>
      cases entry with
      | folder =>
        rw [run_makeAlong_folder stands]
        exact ih _ _ tree
      | file content =>
        rw [run_makeAlong_file stands]
        exact Grows.refl _ tree
      | link target =>
        rw [run_makeAlong_link stands]
        cases tree.follow here [name, "."] with
        | ok folder => exact ih _ _ tree
        | error fault => exact Grows.refl _ tree

/-- Nothing stands at a place but perhaps a folder. -/
def Tree.Clear (tree : Tree) (place : Place) : Prop :=
  tree.at? place = none ∨ tree.at? place = some .folder

theorem Tree.clear_iff {place : Place} :
    tree.Clear place ↔ (∀ content, tree.at? place ≠ some (.file content)) ∧
      ∀ target, tree.at? place ≠ some (.link target) := by
  rw [Clear]
  cases tree.at? place with
  | none => simp
  | some entry => cases entry <;> simp

theorem Tree.Clear.not_link {place : Place} (clear : tree.Clear place) :
    ∀ target, tree.at? place ≠ some (.link target) :=
  (clear_iff.mp clear).2

/-- Where nothing else is in the way, the places that names lead to become folders, and nothing else
changes. -/
theorem run_makeAlong (making : Making) (clear : ∀ place ∈ visits here names, tree.Clear place)
    (shown : List String) :
    ∃ tree', (makeAlong making here shown names).run.run tree = (.ok (), tree') ∧
      ∀ place, tree'.at? place =
        if place ∈ visits here names then some .folder else tree.at? place := by
  induction names generalizing here shown tree with
  | nil => exact ⟨tree, rfl, fun place => by simp [visits]⟩
  | cons name rest ih =>
    rw [visits, List.forall_mem_cons] at clear
    rcases clear.1 with stands | stands
    · have put := Tree.at?_put (by simp [stands] : tree.at? (step here name) ≠ some .folder)
      have clear' : ∀ place ∈ visits (step here name) rest,
          (tree.put (step here name) .folder).Clear place := by
        intro place among
        rw [Tree.Clear, put]
        split
        · exact .inr rfl
        · exact clear.2 place among
      obtain ⟨tree', ran, after⟩ := ih clear' (shown ++ [name])
      refine ⟨tree', (run_makeAlong_none stands).trans ran, fun place => ?_⟩
      rw [after, put, visits]
      by_cases new : place = step here name <;> simp [new]
    · obtain ⟨tree', ran, after⟩ := ih clear.2 (shown ++ [name])
      refine ⟨tree', (run_makeAlong_folder stands).trans ran, fun place => ?_⟩
      rw [after, visits]
      by_cases new : place = step here name
      · simp [new, stands]
      · simp [new]

end

/-! ## Folders on the way to a file -/

private theorem stops_blank (here : Place) {blanks : List String}
    (blank : ∀ name ∈ blanks, name.isEmpty = true) (last : String) :
    ∀ place, place ∈ stops here (blanks ++ [last]) ↔ place = here := by
  induction blanks with
  | nil => simp [stops]
  | cons name rest ih =>
    rw [List.forall_mem_cons] at blank
    have stays : step here name = here := by simp [step, staysHere, blank.1]
    intro place
    rw [List.cons_append, stops, stays, List.mem_cons, ih blank.2]
    exact or_self_iff

/-- The names of the folder on the way to a file. -/
def folderNames (names : List String) : List String :=
  (names.dropLast.reverse.dropWhile String.isEmpty).reverse

/-- A name that is not the last is either that of a folder on the way or leads nowhere. -/
theorem mem_stops_iff {here place : Place} {names : List String} (given : names ≠ []) :
    place ∈ stops here names ↔ place = here ∨ place ∈ visits here (folderNames names) := by
  have parted : names = folderNames names ++
      ((names.dropLast.reverse.takeWhile String.isEmpty).reverse ++ [names.getLast given]) := by
    rw [folderNames, ← List.append_assoc, ← List.reverse_append, List.takeWhile_append_dropWhile,
      List.reverse_reverse, List.dropLast_concat_getLast]
  have blank : ∀ name ∈ (names.dropLast.reverse.takeWhile String.isEmpty).reverse,
      name.isEmpty = true := fun name among =>
    List.all_eq_true.mp List.all_takeWhile name (List.mem_reverse.mp among)
  calc place ∈ stops here names
      ↔ place ∈ stops here (folderNames names) ∨ place = goal here (folderNames names) := by
        conv => lhs; rw [parted]
        rw [stops_append, List.mem_append, stops_blank _ blank]
    _ ↔ place = here ∨ place ∈ visits here (folderNames names) := mem_stops_or_eq_goal

/-- A location at which a file may be written once the folders on the way to it are made, with no
link on the way. -/
structure Tree.Allows (tree : Tree) (location : Location) : Prop where
  somewhere : location.path.isEmpty = false
  begins : tree.at? location.start = some .folder
  clear : ∀ stop ∈ stops location.start location.names, tree.Clear stop
  bare : tree.at? (goal location.start location.names) ≠ some .folder
  solid : ∀ target, tree.at? (goal location.start location.names) ≠ some (.link target)
  apart : goal location.start location.names ∉ stops location.start location.names
  asFile : location.endsAsFolder = false

/-- The folders on the way to a location can be made where a file may be written. -/
theorem Tree.Allows.makeFolders {tree : Tree} {location : Location} (allows : tree.Allows location)
    (making : Making) :
    ∃ tree', (do if let some folder := location.folder? then makeFolder making folder :
        Filing Unit).run.run tree = (.ok (), tree') ∧
      tree'.Takes location (goal location.start location.names) ∧ tree'.top = tree.top := by
  have given : location.names ≠ [] := fun none => by
    have bare := allows.bare
    rw [none] at bare
    exact bare allows.begins
  have among {place : Place} : place ∈ stops location.start location.names ↔
      place = location.start ∨ place ∈ visits location.start (folderNames location.names) :=
    mem_stops_iff given
  obtain ⟨tree', ran, after⟩ := run_makeAlong making
    (fun place visited => allows.clear place (among.mpr (.inr visited))) location.lead
  have grows := (within_makeAlong making (fun _ => True) location.start location.lead
    (folderNames location.names)).grows tree
  rw [ran] at grows
  have folders : ∀ stop ∈ stops location.start location.names, tree'.at? stop = some .folder := by
    intro stop stopped
    rw [after]
    split
    · rfl
    · rename_i unvisited
      obtain rfl := (among.mp stopped).resolve_right unvisited
      exact allows.begins
  have last : tree'.at? (goal location.start location.names) =
      tree.at? (goal location.start location.names) := by
    rw [after, if_neg fun visited => allows.apart (among.mpr (.inr visited))]
  have plain : tree'.Plain location.start location.names := by
    intro place visited target
    rcases mem_stops_or_eq_goal.mpr (.inr visited) with stopped | rfl
    · simp [folders place stopped]
    · rw [last]
      exact allows.solid target
  refine ⟨tree', ?_, ⟨?_, ?_, ?_, allows.asFile⟩, grows.top⟩
  · cases names : folderNames location.names with
    | nil =>
      have none : location.folder? = none := by
        rw [Location.folder?]
        exact if_pos (by rw [← folderNames, names]; rfl)
      rw [none]
      rw [names] at ran
      exact ran
    | cons name rest =>
      have some : location.folder? = some { location with names := name :: rest } := by
        rw [Location.folder?, ← names]
        exact if_neg (by rw [← folderNames, names]; nofun)
      rw [some]
      rw [names] at ran
      exact ran
  · exact (Tree.find_eq_ok plain).mpr ⟨allows.somewhere, folders, rfl⟩
  · rw [last]
    exact allows.bare
  · rw [last]
    exact allows.solid

/-- Where a file may be written it may be written still after another file was changed. -/
theorem Tree.Allows.put {tree : Tree} {location : Location} (allows : tree.Allows location)
    {place : Place} {old : Content} (stands : tree.at? place = some (.file old))
    (content : Content) : (tree.put place (.file content)).Allows location := by
  have bare : tree.at? place ≠ some .folder := by simp [stands]
  have put := Tree.at?_put bare
  have grows : Grows (fun _ => True) tree (tree.put place (.file content)) :=
    Grows.put_file content bare (by simp [stands]) trivial
  refine { allows with
    begins := grows.folders allows.begins, clear := ?_, bare := ?_, solid := ?_ }
  · intro stop stopped
    have apart : stop ≠ place := fun same =>
      (Tree.clear_iff.mp (allows.clear stop stopped)).1 old (same ▸ stands)
    rw [Tree.Clear, put, if_neg apart]
    exact allows.clear stop stopped
  · rw [put]
    split
    · nofun
    · exact allows.bare
  · rw [put]
    split
    · nofun
    · exact allows.solid

end PageHarvest.Files
