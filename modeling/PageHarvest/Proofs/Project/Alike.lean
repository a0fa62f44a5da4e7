import PageHarvest.Proofs.Files.Alike
import PageHarvest.Proofs.Project.Written

/-! # The files of the program in alike trees

Nothing that the program does with files depends on what a file holds. In trees that differ in one
file it finds the same folders, opens the same journal file and saves a result at the same place.
-/

namespace PageHarvest

open Files

variable {R : Content → Content → Prop} {place : Place}

namespace Project

section

variable {tree tree' : Tree} (alike : Alike R place tree tree')

include alike

private theorem home_alike (here : Place) : home tree' here = home tree here := by
  have marked : isMarked tree' = isMarked tree := by
    funext other
    simp only [isMarked, alike.has]
  rw [home, home, root, root, marked]

private theorem logs_alike (here : Place) : logs tree' here = logs tree here := by
  rw [logs, logs, home_alike alike]

/-- The output folder is the same in trees that are alike. -/
theorem output_alike (here : Place) : output tree' here = output tree here := by
  rw [output, output, home_alike alike]

private theorem isReady_alike (here : Place) : isReady tree' here = isReady tree here := by
  rw [isReady, isReady, home_alike alike, alike.hasFolder, alike.has]

end

private theorem keeps_makeAt {folder : Tree → Place}
    (same : ∀ tree tree', Alike R place tree tree' → folder tree' = folder tree) :
    Keeps (Alike R place) (makeAt folder) (makeAt folder) :=
  Mirrors.get_bind fun tree tree' alike => by
    rw [same tree tree' alike, alike.ofPlace]
    exact keeps_makeFolder .here _ alike

private theorem keeps_setUp (ignored : R (.text ignoreText) (.text ignoreText)) (here : Place) :
    Keeps (Alike R place) (setUp here) (setUp here) :=
  Mirrors.get_bind fun tree tree' alike => by
    rw [home_alike alike]
    refine Keeps.bind (keeps_makeAt fun _ _ alike => logs_alike alike here) (fun _ => ?_) alike
    refine Keeps.bind (keeps_makeAt fun _ _ alike => output_alike alike here) fun _ => ?_
    refine Mirrors.get_bind fun tree tree' alike => ?_
    rw [alike.has, alike.ofPlace]
    split
    · exact Keeps.bind (keeps_change fun _ _ _ => ignored)
        (fun _ => Mirrors.pure _ fun _ _ alike => alike) alike
    · exact Mirrors.pure _ (fun _ _ alike => alike) alike

private theorem keeps_openReady (here : Place) (now : Timestamp) (level : String) :
    Keeps (Alike R place) (openReady here now level) (openReady here now level) := by
  refine Keeps.bind (Mirrors.adapt _ (keeps_makeAt fun _ _ alike => logs_alike alike here))
    fun _ => ?_
  refine Mirrors.get_bind fun tree tree' alike => ?_
  dsimp only
  rw [logs_alike alike, alike.ofPlace]
  cases levelOf level with
  | refused fault => exact Mirrors.throw _ (fun _ _ alike => alike) alike
  | threshold threshold =>
    refine Keeps.bind (Mirrors.adapt _ (keeps_change fun content content' related => ?_))
      (fun _ => Mirrors.pure _ fun _ _ alike => alike) alike
    rwa [Option.getD_some, Option.getD_some, Content.append_empty, Content.append_empty]

/-- Opening a journal file leaves every other content alone, but for that of the file that keeps
the folder of the program out of version control. -/
theorem keeps_openLog (ignored : R (.text ignoreText) (.text ignoreText)) (here : Place)
    (now : Timestamp)
    (level : String) :
    Keeps (Alike R place) (openLog here now level) (openLog here now level) := by
  intro tree tree' alike
  rw [openLog_eq, openLog_eq, isReady_alike alike]
  split
  · exact Keeps.bind
      (Keeps.bind (Mirrors.adapt _ (keeps_setUp ignored here))
        fun _ => Mirrors.pure () fun _ _ alike => alike)
      (fun _ => keeps_openReady here now level) alike
  · exact keeps_openReady here now level alike

theorem keeps_write (closed : ∀ content content' text, R content content' →
    R (content.append text) (content'.append text)) (log : Log) (stamp : String)
    (entries : List Journal.Entry) :
    Keeps (Alike R place) (log.write stamp entries) (log.write stamp entries) :=
  Mirrors.get_bind fun tree tree' alike => by
    rw [alike.ofPlace]
    exact keeps_change (fun content content' related => closed content content' _ related) alike

end Project

namespace Report

/-- A text is kept in alike trees alike. -/
theorem keeps_keep (refl : ∀ content, R content content) (location : Location) (text : String) :
    Keeps (Alike R place) (keep location text) (keep location text) := by
  rw [keep_eq]
  refine Keeps.bind ?folders fun _ => keeps_change fun _ _ _ => refl _
  case folders =>
    cases location.folder? with
    | none => exact Mirrors.pure () fun _ _ alike => alike
    | some folder => exact keeps_makeFolder .below folder

/-- A result is saved in alike trees alike, and then it can be read at the same location. -/
theorem mirrors_save (refl : ∀ content, R content content) (location : Location) (base : String)
    (now : Timestamp) (result : CrawlResult) :
    Mirrors (Alike R place) (fun outcome tree tree' => Alike R place tree tree' ∧
        (outcome = .ok () → tree.read location = .ok (savedText base now result) ∧
          tree'.read location = .ok (savedText base now result)))
      (save location base now result) (save location base now result) := by
  have saves : Keeps (Alike R place) (save location base now result)
      (save location base now result) := by
    by_cases brief : (saved base now result).Brief
    · rw [save_of_brief brief]
      exact Mirrors.adapt _ (keeps_keep refl location _)
    · obtain ⟨part, same⟩ := exists_save_of_not_brief brief
      rw [same]
      exact Keeps.bind (Mirrors.adapt _ (keeps_keep refl location part))
        fun _ => Mirrors.throw _ fun _ _ alike => alike
  intro tree tree' alike
  obtain ⟨outcome, left, left', ran, ran', alike'⟩ := saves alike
  refine ⟨outcome, left, left', ran, ran', alike', ?_⟩
  rintro rfl
  exact ⟨(read_of_save ran).2, (read_of_save ran').2⟩

end Report

end PageHarvest
