import PageHarvest.Project.Log
import PageHarvest.Proofs.Files.Tree
import PageHarvest.Proofs.Json.Dump
import PageHarvest.Report.Saved

/-! # Files that the program writes

Opening a journal file writes nothing but that file and the file that keeps the folder of the
program out of version control, unless a link has the name of one of them. An open journal file can
always be written to. A text that is kept where a file may stand can be read there, with the folders
on the way made as far as they were missing.
-/

namespace PageHarvest

open Files

/-! ## Journal files -/

namespace Project

/-- Whether a place is that of the journal file of a time or of the file with the folder's own
rules for version control, told by its last name. -/
def IsOwn (now : Timestamp) (place : Place) : Prop :=
  place.getLast? = some (logName now) ∨ place.getLast? = some ignoreFile

private theorem within_makeAt (only : Place → Prop) (place : Tree → Place) :
    Within only (makeAt place) :=
  Within.bind Within.get fun _ => within_makeAlong .here only _ _ _

/-- Where no link stands at the places with a name, a path of that name leads to one of them. -/
theorem only_of_find {tree tree' : Tree} {folder place : Place} {name : String}
    {only : Place → Prop} (named : ∀ place : Place, place.getLast? = some name → only place)
    (leads : staysHere name = false) (down : name ≠ "..")
    (found : tree.find (.ofPlace tree' (folder ++ [name])) = .ok place)
    (unlinked : tree.Unlinked only) : only place := by
  have last (here : Place) : (step here name).getLast? = some name := by simp [step, leads, down]
  have follows : ∀ here names, tree.followWithin Tree.linkLimit here names = .ok place →
      (names = [] → here = place) ∧ ∀ front, names = front ++ [name] → only place := by
    refine Tree.followWithin_induction ?done ?down ?jump Tree.linkLimit
    case done => simp
    case down =>
      intro here first rest folder plain later
      refine ⟨fun empty => absurd empty (List.cons_ne_nil _ _), fun front same => ?_⟩
      cases front with
      | nil =>
        obtain ⟨rfl, rfl⟩ := List.cons.inj same
        exact named place (later.1 rfl ▸ last here)
      | cons other front =>
        obtain ⟨rfl, rfl⟩ := List.cons.inj same
        exact later.2 front rfl
    case jump =>
      intro here first rest target folder linked later
      refine ⟨fun empty => absurd empty (List.cons_ne_nil _ _), fun front same => ?_⟩
      cases front with
      | nil =>
        obtain ⟨rfl, rfl⟩ := List.cons.inj same
        exact absurd linked (unlinked _ (named _ (last here)) target)
      | cons other front =>
        obtain ⟨rfl, rfl⟩ := List.cons.inj same
        exact later.2 (Text.split "/" target ++ front) (List.append_assoc _ _ _).symm
  exact (follows [] _ (Tree.follow_of_find found).2).2 folder rfl

private theorem logName_leads (now : Timestamp) :
    staysHere (logName now) = false ∧ logName now ≠ ".." := by
  have begins : (logName now).toList.head? = some 'r' := by simp [logName, toString]
  have other (word : String) (differs : word.toList.head? ≠ some 'r') : logName now ≠ word :=
    fun same => differs (same ▸ begins)
  exact ⟨by simp [staysHere, other "" (by simp), other "." (by simp)], other ".." (by simp)⟩

private theorem within_setUp (here : Place) (now : Timestamp) :
    Within (IsOwn now) (setUp here) := by
  refine Within.bind Within.get fun tree => ?_
  refine Within.bind (within_makeAt _ _) fun _ => ?_
  refine Within.bind (within_makeAt _ _) fun _ => ?_
  refine Within.bind Within.get fun tree' => ?_
  by_cases missing : (!tree'.has (home tree here ++ [ignoreFile])) = true
  · rw [if_pos missing]
    refine Within.bind (within_change fun _ _ found unlinked => ?_) fun _ => Within.pure _
    exact only_of_find (fun _ => .inr) (by decide) (by decide) found unlinked
  · rw [if_neg missing]
    exact Within.pure _

/-- Opening a journal file once the folder of the program is set up. -/
def openReady (here : Place) (now : Timestamp) (level : String) :
    ExceptT LogProblem (StateM Tree) Log := do
  ExceptT.adapt .files (makeAt (logs · here))
  let tree ← get
  let place := logs tree here ++ [logName now]
  match levelOf level with
  | .refused fault => throw (.level fault)
  | .threshold threshold =>
    ExceptT.adapt .files (append (.ofPlace tree place) "")
    return ⟨place, threshold⟩

section

variable (here : Place) (now : Timestamp) (level : String)

theorem openLog_eq (tree : Tree) :
    (openLog here now level).run.run tree =
      (if !isReady tree here then
        discard (ExceptT.adapt LogProblem.files (setUp here)) >>= fun _ =>
          openReady here now level
      else openReady here now level).run.run tree := by
  rw [openLog, run_get_bind]
  rfl

private theorem within_openReady : Within (IsOwn now) (openReady here now level) := by
  have named := logName_leads now
  refine Within.bind (Within.adapt _ (within_makeAt _ _)) fun _ => ?_
  refine Within.bind Within.get fun tree => ?_
  cases levelOf level with
  | refused fault => exact Within.throw _
  | threshold threshold =>
    refine Within.bind (Within.adapt _ (within_change fun _ _ found unlinked => ?_))
      fun _ => Within.pure _
    exact only_of_find (fun _ => .inl) named.1 named.2 found unlinked

/-- Opening the journal touches the program's own places only. -/
theorem within_openLog : Within (IsOwn now) (openLog here now level) := by
  intro tree
  rw [openLog_eq]
  split
  · have ready : Within (IsOwn now)
        (discard (ExceptT.adapt LogProblem.files (setUp here))) :=
      Within.bind (Within.adapt _ (within_setUp here now)) fun _ => Within.pure ()
    exact Within.bind ready (fun _ => within_openReady here now level) tree
  · exact within_openReady here now level tree

variable {here now level} {tree opened : Tree} {log : Log}

/-- Opening the journal leaves a file at a place where more can be written. -/
private theorem takes_of_openReady
    (opens : (openReady here now level).run.run tree = (.ok log, opened)) :
    ∃ place content, (opened.Unlinked (IsOwn now) → IsOwn now place) ∧
      opened.at? place = some (.file content) ∧
      opened.Takes (.ofPlace opened log.place) place := by
  have named := logName_leads now
  obtain ⟨_, made, -, rest⟩ := exists_of_run_bind opens
  rw [run_get_bind] at rest
  cases known : levelOf level with
  | threshold threshold =>
    simp only [known] at rest
    obtain ⟨_, written, appended, gives⟩ := exists_of_run_bind rest
    obtain ⟨place, takes, rfl⟩ := takes_of_change (run_of_run_adapt appended)
    obtain ⟨same, rfl⟩ := Prod.mk.inj gives
    obtain rfl := Except.ok.inj same
    have grows (content : Content) : Grows (fun _ => True) made (made.put place (.file content)) :=
      Grows.put_file content takes.bare takes.solid trivial
    refine ⟨place, _, fun unlinked => ?_, takes.at?_put _, takes.put _⟩
    rw [(grows _).unlinked_iff] at unlinked
    exact only_of_find (fun _ => .inl) named.1 named.2 takes.leads unlinked
  | refused fault =>
    simp only [known] at rest
    exact absurd (Prod.mk.inj rest).1 nofun

/-- An open journal file can be written to. -/
theorem takes_of_openLog (opens : (openLog here now level).run.run tree = (.ok log, opened)) :
    ∃ place content, (opened.Unlinked (IsOwn now) → IsOwn now place) ∧
      opened.at? place = some (.file content) ∧
      opened.Takes (.ofPlace opened log.place) place := by
  rw [openLog_eq] at opens
  split at opens
  · obtain ⟨_, _, -, opens⟩ := exists_of_run_bind opens
    exact takes_of_openReady opens
  · exact takes_of_openReady opens

end

/-- Writing to a journal file puts the entries that it keeps at its end. -/
theorem run_write {log : Log} {tree : Tree} {place : Place}
    (takes : tree.Takes (.ofPlace tree log.place) place) (stamp : String)
    (entries : List Journal.Entry) :
    (log.write stamp entries).run.run tree =
      (.ok (), tree.put place
        (.file (((tree.content? place).getD "").append (log.text stamp entries)))) := by
  rw [Log.write, run_get_bind]
  exact change_of_takes takes

end Project

/-! ## Saved results -/

namespace Report

theorem keep_eq (location : Location) (text : String) :
    keep location text =
      (do if let some folder := location.folder? then makeFolder .below folder : Filing Unit) >>=
        fun _ => write location text := by
  rw [keep]
  cases location.folder? <;> rfl

/-- A text that is kept where a file may be written can be read there. -/
theorem run_keep {tree : Tree} {location : Location} (allows : tree.Allows location)
    (text : String) :
    ∃ kept, (keep location text).run.run tree = (.ok (), kept) ∧
      kept.read location = .ok text ∧ kept.top = tree.top := by
  obtain ⟨middle, made, takes, top⟩ := allows.makeFolders .below
  refine ⟨_, ?_, takes.read_put text, top⟩
  rw [keep_eq]
  exact (run_bind_of made).trans (change_of_takes takes)

variable {location : Location} {base : String} {now : Timestamp} {result : CrawlResult}
  {tree : Tree}

/-- A result without overlong numbers is saved as a whole. -/
theorem save_of_brief (brief : (saved base now result).Brief) :
    save location base now result =
      ExceptT.adapt .files (keep location (savedText base now result)) := by
  have dumped : (saved base now result).dump = .ok (savedText base now result) :=
    Json.dump_eq_ok_iff.mpr ⟨brief, rfl⟩
  unfold save
  rw [dumped]

/-- A result with an overlong number leaves the part in front of it in the file. -/
theorem exists_save_of_not_brief (long : ¬(saved base now result).Brief) :
    ∃ part, ∀ location, save location base now result =
      (ExceptT.adapt .files (keep location part) >>= fun _ => throw .tooManyDigits) := by
  cases dumped : (saved base now result).dump with
  | ok text => exact absurd (Json.dump_eq_ok_iff.mp dumped).1 long
  | error part =>
    refine ⟨part, fun location => ?_⟩
    unfold save
    rw [dumped]

/-- A result is saved where a file may be written if its numbers are short enough, and can then be
read there. -/
theorem run_save (allows : tree.Allows location) (brief : (saved base now result).Brief) :
    ∃ after, (save location base now result).run.run tree = (.ok (), after) ∧
      after.read location = .ok (savedText base now result) ∧ after.top = tree.top := by
  obtain ⟨after, kept, reads, top⟩ := run_keep allows (savedText base now result)
  refine ⟨after, ?_, reads, top⟩
  rw [save_of_brief brief, run_adapt, kept]
  rfl

/-- Otherwise saving it breaks off. -/
theorem run_save_of_not_brief (allows : tree.Allows location)
    (long : ¬(saved base now result).Brief) :
    ∃ after, (save location base now result).run.run tree = (.error .tooManyDigits, after) := by
  obtain ⟨part, same⟩ := exists_save_of_not_brief long
  obtain ⟨after, kept, -, -⟩ := run_keep allows part
  refine ⟨after, ?_⟩
  rw [same]
  have begun : (ExceptT.adapt SaveFault.files (keep location part)).run.run tree =
      (.ok (), after) := by
    rw [run_adapt, kept]
    rfl
  exact run_bind_of begun

/-- Where a result was saved its text can be read. -/
theorem read_of_save {after : Tree}
    (saves : (save location base now result).run.run tree = (.ok (), after)) :
    (saved base now result).Brief ∧ after.read location = .ok (savedText base now result) := by
  by_cases brief : (saved base now result).Brief
  · rw [save_of_brief brief] at saves
    have kept := run_of_run_adapt saves
    rw [keep_eq] at kept
    obtain ⟨_, middle, -, writes⟩ := exists_of_run_bind kept
    obtain ⟨place, takes, rfl⟩ := takes_of_change writes
    exact ⟨brief, takes.read_put (savedText base now result)⟩
  · obtain ⟨part, same⟩ := exists_save_of_not_brief brief
    rw [same] at saves
    obtain ⟨_, middle, -, throws⟩ := exists_of_run_bind saves
    exact absurd (Prod.mk.inj throws).1 nofun

end Report

end PageHarvest
