import PageHarvest.Proofs.Files.Standing
import PageHarvest.Proofs.Project.Root

/-! # Setting up the folder of the program

While the folder of the program is set up its root is looked up again and again, in trees that have
more and more of the folder, which is a marker itself. It is the same root all the time: nothing
that is put is a marker but for the folder, and that one is put right below the root. What stood
there before stays as it is. A link may be in the way of all this: one that leads nowhere marks
nothing until something is put where it leads.
-/

namespace PageHarvest.Project

open Files

/-! ## What is new in the folder of the program -/

/-- The names of the folders in that of the program. -/
def subfolders : List String := ["logs", "output"]

/-- What the program puts at places of its own. -/
inductive Own (home : Place) : Place → Entry → Prop where
  | home : Own home home .folder
  | folder {name : String} (named : name ∈ subfolders) : Own home (home ++ [name]) .folder
  | ignored : Own home (home ++ [ignoreFile]) (.file ignoreText)

/-- All that differs is what the program has put where nothing stood. -/
structure Settles (home : Place) (before after : Tree) : Prop where
  top : after.top = before.top
  kept : ∀ place, after.at? place = before.at? place ∨
    before.at? place = none ∧ ∃ entry, Own home place entry ∧ after.at? place = some entry

namespace Settles

variable {home base place : Place} {before middle after : Tree}

private theorem refl (home : Place) (tree : Tree) : Settles home tree tree :=
  ⟨rfl, fun _ => .inl rfl⟩

/-- Opening the program's own places is a part of setting up. -/
private theorem of_opens {places : List Place} (opens : before.Opens places after)
    (among : ∀ place ∈ places, Own home place .folder) : Settles home before after where
  top := opens.top
  kept place := by
    rw [opens.folders]
    split
    · next new =>
      cases stands : before.at? place with
      | none => exact .inr ⟨rfl, .folder, among place new, rfl⟩
      | some entry =>
        cases entry with
        | folder => exact .inl rfl
        | file content =>
          exact absurd stands ((Tree.clear_iff.mp (opens.clear place new)).1 content)
        | link target => exact absurd stands ((opens.clear place new).not_link target)
    · exact .inl rfl

private theorem at?_eq (settles : Settles home before after) {entry : Entry}
    (stands : before.at? place = some entry) : after.at? place = some entry := by
  obtain same | ⟨free, -⟩ := settles.kept place
  · rw [same, stands]
  · rw [stands] at free
    cases free

private theorem trans (first : Settles home before middle) (second : Settles home middle after) :
    Settles home before after where
  top := second.top.trans first.top
  kept place := by
    obtain same | ⟨free, entry, among, new⟩ := first.kept place
    · rw [← same]
      exact second.kept place
    · exact .inr ⟨free, entry, among, second.at?_eq new⟩

section

variable (settles : Settles home before after)

include settles

private theorem link_iff (target : String) :
    after.at? place = some (.link target) ↔ before.at? place = some (.link target) := by
  refine ⟨fun stands => ?_, settles.at?_eq⟩
  obtain same | ⟨-, entry, owned, new⟩ := settles.kept place
  · rw [← same, stands]
  · have isLink : entry = .link target := Option.some.inj (new.symm.trans stands)
    subst isLink
    cases owned

private theorem grows : Grows (fun place => place = home ++ [ignoreFile]) before after where
  top := settles.top
  folders := settles.at?_eq
  links := settles.link_iff
  files {place} apart content := by
    refine ⟨fun stands => ?_, settles.at?_eq⟩
    obtain same | ⟨-, entry, owned, new⟩ := settles.kept place
    · rw [← same, stands]
    · have isFile : entry = .file content := Option.some.inj (new.symm.trans stands)
      subst isFile
      cases owned
      exact absurd rfl apart

/-- What was seen is seen still. -/
theorem look_ne_none (seen : before.look place ≠ none) : after.look place ≠ none := by
  unfold Tree.look at seen ⊢
  cases leads : before.follow [] place with
  | error fault =>
    rw [leads] at seen
    exact absurd rfl seen
  | ok there =>
    rw [leads] at seen
    obtain ⟨entry, stands⟩ := Option.ne_none_iff_exists'.mp seen
    rw [settles.grows.follow leads]
    dsimp only
    rw [settles.at?_eq stands]
    exact Option.some_ne_none entry

private theorem standing (stands : before.Standing base) : after.Standing base where
  down := stands.down
  folders above up := settles.at?_eq (stands.folders above up)

/-- The only new file is the one with the rules for version control. -/
theorem clear (apart : place ≠ home ++ [ignoreFile]) (free : before.Clear place) :
    after.Clear place := by
  obtain same | ⟨-, entry, owned, new⟩ := settles.kept place
  · rwa [Tree.Clear, same]
  · cases owned with
    | home => exact .inr new
    | folder => exact .inr new
    | ignored => exact absurd rfl apart

private theorem outside (apart : ¬home <+: place) : after.at? place = before.at? place := by
  obtain same | ⟨-, entry, owned, -⟩ := settles.kept place
  · exact same
  · cases owned with
    | home => exact absurd (List.prefix_refl _) apart
    | folder => exact absurd (List.prefix_append _ _) apart
    | ignored => exact absurd (List.prefix_append _ _) apart

end

end Settles

/-! ## Links -/

/-- No link strays: one in the place of a marker leads to something, and none stands where the
program puts something of its own. -/
structure NoStrayLink (tree : Tree) (here : Place) : Prop where
  markers : ∀ place, place <+: here → ∀ marker ∈ markers, ∀ target,
    tree.at? (place ++ [marker]) = some (.link target) → tree.look (place ++ [marker]) ≠ none
  own : ∀ place entry, Own (home tree here) place entry → ∀ target,
    tree.at? place ≠ some (.link target)

private theorem marker_leadsDown : ∀ marker ∈ markers, LeadsDown marker := by decide

namespace Settles

variable {here : Place} {before after : Tree}

section

variable (settles : Settles (home before here) before after) (stands : before.Standing here)
  (noLink : NoStrayLink before here)

include settles stands noLink

/-- Nothing that is new is a marker, but for the folder of the program itself. -/
theorem root_eq : root after here = root before here := by
  have kept {place : Place} (holds : HoldsMarker before place) : HoldsMarker after place := by
    obtain ⟨marker, among, seen⟩ := holds
    exact ⟨marker, among, settles.look_ne_none seen⟩
  refine root_eq_of_marks (fun place above apart => ⟨?_, kept⟩) kept
  rintro ⟨marker, among, seen⟩
  refine ⟨marker, among, ?_⟩
  by_cases linked : ∃ target, before.at? (place ++ [marker]) = some (.link target)
  · obtain ⟨target, link⟩ := linked
    exact noLink.markers place above marker among target link
  · -- where no link stands, what is seen is what stands there
    rw [not_exists] at linked
    have down := marker_leadsDown marker among
    have linked' (target : String) : after.at? (place ++ [marker]) ≠ some (.link target) :=
      mt (settles.link_iff target).mp (linked target)
    rw [((settles.standing stands).above above).look down linked'] at seen
    rw [(stands.above above).look down linked]
    obtain same | ⟨-, entry, owned, -⟩ := settles.kept (place ++ [marker])
    · rwa [← same]
    · generalize spot : place ++ [marker] = other at owned
      cases owned with
      | home => exact absurd (List.append_inj' spot rfl).1 apart
      | folder named =>
        obtain rfl := List.singleton_inj.mp (List.append_inj' spot rfl).2
        exact absurd among ((by decide : ∀ name ∈ subfolders, name ∉ Project.markers) _ named)
      | ignored =>
        obtain rfl := List.singleton_inj.mp (List.append_inj' spot rfl).2
        exact absurd among (by decide)

private theorem home_eq : home after here = home before here := by
  rw [home, settles.root_eq stands noLink, home]

private theorem noStrayLink : NoStrayLink after here where
  markers place above marker among target link :=
    settles.look_ne_none
      (noLink.markers place above marker among target ((settles.link_iff target).mp link))
  own place entry owned target := by
    rw [settles.home_eq stands noLink] at owned
    exact mt (settles.link_iff target).mp (noLink.own place entry owned target)

end

end Settles

/-! ## Steps of setting up -/

/-- Puts the rules for version control into a folder that has none. -/
def ignore (folder : Place) : Filing Unit := do
  let tree ← get
  if !tree.has (folder ++ [ignoreFile]) then
    write (.ofPlace tree (folder ++ [ignoreFile])) ignoreText

section

variable {here folder : Place} {name : String} {tree tree' : Tree}

private theorem run_ignore_of_has (has : tree.has (folder ++ [ignoreFile]) = true) :
    (ignore folder).run.run tree = (.ok (), tree) := by
  rw [ignore, run_get_bind, has]
  rfl

/-- Where the folder of the program stands, the rules for version control get there. -/
theorem exists_run_ignore (stands : tree.Standing folder)
    (solid : ∀ target, tree.at? (folder ++ [ignoreFile]) ≠ some (.link target)) :
    ∃ tree', (ignore folder).run.run tree = (.ok (), tree') ∧ Settles folder tree tree' ∧
      tree'.has (folder ++ [ignoreFile]) = true := by
  cases missing : tree.has (folder ++ [ignoreFile]) with
  | true => exact ⟨tree, run_ignore_of_has missing, .refl folder tree, missing⟩
  | false =>
    have down : LeadsDown ignoreFile := by decide
    have free : tree.at? (folder ++ [ignoreFile]) = none := by
      simpa [Tree.has, stands.look down solid] using missing
    have takes := stands.takes down (by simp [free]) solid tree
    have settles : Settles folder tree
        (tree.put (folder ++ [ignoreFile]) (.file ignoreText)) := by
      refine ⟨rfl, fun other => ?_⟩
      rw [Tree.at?_put takes.bare]
      split
      · next same => exact .inr ⟨same ▸ free, _, same ▸ .ignored, rfl⟩
      · exact .inl rfl
    refine ⟨tree.put (folder ++ [ignoreFile]) (.file ignoreText), ?_, settles, ?_⟩
    · rw [ignore, run_get_bind, missing, Bool.not_false, if_pos rfl, write]
      exact change_of_takes takes
    · rw [Tree.has, (settles.standing stands).look down (by simp [takes.at?_put]), takes.at?_put]
      rfl

private theorem run_makeAt (place : Tree → Place) (tree : Tree) :
    (makeAt place).run.run tree = (makeFolder .here (.ofPlace tree (place tree))).run.run tree :=
  run_get_bind _ _

private theorem down_of_mem (named : name ∈ subfolders) : LeadsDown name :=
  (by decide : ∀ name ∈ subfolders, LeadsDown name) name named

private theorem visits_below (down : LeadsDown name) (base : Place) :
    visits base [".pathcrawl", name] =
      [base ++ [".pathcrawl"], base ++ [".pathcrawl"] ++ [name]] := by
  have first : LeadsDown ".pathcrawl" := by decide
  rw [visits, visits, visits, step_of_leadsDown first, step_of_leadsDown down]

/-- What making one of the folders in that of the program comes to. -/
structure Made (here : Place) (name : String) (before after : Tree) : Prop where
  clear : ∀ place ∈ [home before here, home before here ++ [name]], before.Clear place
  settles : Settles (home before here) before after
  stands : after.Standing (home before here ++ [name])

section

variable (place : Tree → Place) (rooted : tree.Standing (root tree here))
  (noLink : NoStrayLink tree here) (named : name ∈ subfolders)
  (leads : place tree = home tree here ++ [name])

include rooted named leads

include noLink in

/-- Making a folder in that of the program makes that one too, if it is missing. -/
theorem made_of_makeAt (ran : (makeAt place).run.run tree = (.ok (), tree')) :
    Made here name tree tree' := by
  have down := down_of_mem named
  have homeDown : LeadsDown ".pathcrawl" := by decide
  rw [run_makeAt, leads, home, List.append_assoc] at ran
  have plain : tree.Plain (root tree here) [".pathcrawl", name] := by
    rw [Tree.Plain, visits_below down, List.forall_mem_cons, List.forall_mem_singleton]
    exact ⟨noLink.own _ _ .home, noLink.own _ _ (.folder named)⟩
  have opens := opens_of_run_makeFolder rooted plain ran
  rw [visits_below down] at opens
  have settles : Settles (home tree here) tree tree' := .of_opens opens <| by
    rw [List.forall_mem_cons, List.forall_mem_singleton]
    exact ⟨.home, .folder named⟩
  refine ⟨opens.clear, settles, ?_⟩
  have folder : tree'.Standing (home tree here) :=
    (settles.standing rooted).concat homeDown (by simp [opens.folders])
  exact folder.concat down (by simp [opens.folders, home])

end

end

/-! ## Setting up -/

/-- The trees that the steps of setting up leave one after the other. -/
structure Stages (here : Place) (tree logged shelved after : Tree) : Prop where
  logs : (makeAt (logs · here)).run.run tree = (.ok (), logged)
  output : (makeAt (output · here)).run.run logged = (.ok (), shelved)
  ignored : (ignore (home tree here)).run.run shelved = (.ok (), after)

/-- What holds once the folder of the program is set up. -/
structure Settled (here : Place) (tree : Tree) : Prop where
  logs : tree.Standing (Project.logs tree here)
  output : tree.Standing (Project.output tree here)
  ignored : tree.has (home tree here ++ [ignoreFile]) = true

section

variable {here folder : Place} {tree logged shelved after : Tree}

/-- Where all is set up there is nothing left to do. -/
theorem Settled.stages (settled : Settled here tree) : Stages here tree tree tree tree where
  logs := by rw [run_makeAt, run_makeFolder_standing settled.logs]
  output := by rw [run_makeAt, run_makeFolder_standing settled.output]
  ignored := run_ignore_of_has settled.ignored

private theorem Settled.isReady (settled : Settled here tree) : isReady tree here = true := by
  have stands := settled.logs.above (List.prefix_append _ _)
  have root : tree.Standing (root tree here) := stands.above (List.prefix_append _ _)
  have folder : tree.at? (home tree here) = some .folder :=
    stands.folders _ (List.prefix_refl _)
  have seen : tree.look (home tree here) = some .folder := by
    rw [home] at folder ⊢
    rw [root.look (by decide) (by simp [folder]), folder]
  rw [Project.isReady, Tree.hasFolder, seen, settled.ignored]
  rfl

/-- The root is a place to stand, since it lies on the way. -/
theorem root_standing (stands : tree.Standing here) : tree.Standing (root tree here) :=
  stands.above (isRoot_root tree here).above

section

variable (stands : tree.Standing here) (noLink : NoStrayLink tree here)

include stands noLink

/-- A tree that comes from another by making some of the folders stands below its root. -/
theorem Settles.rooted (settles : Settles (home tree here) tree after) :
    after.Standing (root after here) ∧ NoStrayLink after here :=
  ⟨root_standing (settles.standing stands), settles.noStrayLink stands noLink⟩

/-- The stages of setting up differ in nothing but what the program has put. -/
theorem Stages.settles (stages : Stages here tree logged shelved after) :
    Made here "logs" tree logged ∧ Made here "output" logged shelved ∧
      Settles (home tree here) tree logged ∧ Settles (home tree here) tree shelved ∧
      Settles (home tree here) tree after ∧ Settled here after := by
  have logs := made_of_makeAt _ (root_standing stands) noLink (by decide) rfl stages.logs
  have homeLogged := logs.settles.home_eq stands noLink
  obtain ⟨rooted, noLinkLogged⟩ := logs.settles.rooted stands noLink
  have output := made_of_makeAt _ rooted noLinkLogged (by decide) rfl stages.output
  have between := output.settles
  have stands' := output.stands
  rw [homeLogged] at between stands'
  have toShelved := logs.settles.trans between
  have folder := stands'.above (List.prefix_append _ _)
  have noLinkShelved := (toShelved.noStrayLink stands noLink).own _ _ .ignored
  rw [toShelved.home_eq stands noLink] at noLinkShelved
  obtain ⟨last, ran, settles, has⟩ := exists_run_ignore folder noLinkShelved
  obtain rfl : after = last := (Prod.mk.inj (stages.ignored.symm.trans ran)).2
  have toAfter := toShelved.trans settles
  have same := toAfter.home_eq stands noLink
  refine ⟨logs, output, logs.settles, toShelved, toAfter, ?_, ?_, ?_⟩
  · rw [Project.logs, same]
    exact (between.trans settles).standing logs.stands
  · rw [Project.output, same]
    exact settles.standing stands'
  · rwa [same]

end

end

end PageHarvest.Project
