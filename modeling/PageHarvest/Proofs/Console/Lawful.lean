import PageHarvest.Console.Terminal
import PageHarvest.Proofs.Console.Showing
import PageHarvest.Proofs.Console.Tags
import PageHarvest.Proofs.Traverse

/-! # What the program relies on in a console

A console prints markup in which every closing tag closes a style and no colour lacks a part, and it
draws tables that hold no tag at all. It need not do more: what it makes of other markup, and
of the parameters of events, is not asked here. Terminals are such consoles.
-/

namespace PageHarvest

open Console

/-- No text in a table holds a tag. -/
structure Console.Table.Untagged (table : Table) : Prop where
  title : holdsTag 0 table.title.toList = false
  headings : ∀ column ∈ table.columns, holdsTag 0 column.heading.toList = false
  cells : ∀ column ∈ table.columns, ∀ cell ∈ column.cells, holdsTag 0 cell = false

/-- What the program relies on in a console. -/
structure Console.Lawful (console : Console) : Prop where
  prints : ∀ markup : String, (∀ check, ∃ plain, plainOf check markup.toList = .ok plain) →
    ∃ lines, console.printMarkup markup = .ok lines
  draws : ∀ table : Table, table.Untagged → ∃ lines, console.printTable table = .ok lines

namespace Console

/-- What shows under every check of events is printed by every lawful console. -/
theorem Lawful.prints_of_shows {console : Console} (lawful : console.Lawful) {markup : String}
    (shows : ∀ check, Shows check [] 0 markup.toList) :
    ∃ lines, console.printMarkup markup = .ok lines :=
  lawful.prints markup fun check => (shows check).plainOf

section

variable {table : Table}

/-- Cells without a tag show text without a style. -/
theorem exists_columns_shown (check : EventCheck) (untagged : table.Untagged) :
    ∃ columns, table.columns.mapM (Column.shown check) = .ok columns ∧
      ∀ cells ∈ columns, ∀ shown ∈ cells, shown.tags = [] := by
  refine exists_mapM_eq_ok_and fun column member => exists_mapM_eq_ok_and fun cell among => ?_
  obtain ⟨text, shows⟩ := exists_shownOf (untagged.cells column member cell among) check
  exact ⟨_, shows, rfl⟩

private theorem lookUp_byRow {columns : List (List Shown)}
    (unstyled : ∀ cells ∈ columns, ∀ shown ∈ cells, shown.tags = []) :
    (byRow columns).forM Shown.lookUp = .ok () := by
  refine forM_eq_ok fun shown among => Shown.lookUp_eq_ok ?_
  obtain ⟨n, -, inRow⟩ := List.mem_flatMap.mp among
  obtain ⟨cells, member, found⟩ := List.mem_filterMap.mp inRow
  rw [unstyled cells member shown (List.mem_of_getElem? found)]
  exact List.forall_mem_nil _

private theorem exists_draw (check : EventCheck) (width : Nat) (untagged : table.Untagged) :
    ∃ lines, table.draw check width = .ok lines := by
  obtain ⟨columns, shows, unstyled⟩ := exists_columns_shown check untagged
  refine ⟨drawPlain width table (table.columns.zipWith Column.plain columns), ?_⟩
  rw [Table.draw, shows]
  change (byRow columns).forM Shown.lookUp >>= _ = _
  rw [lookUp_byRow unstyled]
  rfl

end

section

variable {width : Nat} {check : EventCheck} {fault : MarkupFault}

theorem printTable_of_draw_error {table : Table} (lost : table.draw check width = .error fault) :
    (terminal width check).printTable table = .error fault.raised := by
  simp only [terminal, lost]
  rfl

end

/-- Terminals are such consoles. -/
theorem terminal_lawful (width : Nat) (check : EventCheck) : (terminal width check).Lawful where
  prints markup meaning := by
    obtain ⟨plain, shows⟩ := meaning check
    refine ⟨(wrap width .fold .none plain).map String.ofList, ?_⟩
    simp only [terminal, shows]
    rfl
  draws table untagged := by
    obtain ⟨lines, draws⟩ := exists_draw check width untagged
    refine ⟨lines.map String.ofList, ?_⟩
    simp only [terminal, draws]
    rfl

end Console

end PageHarvest
