import PageHarvest.Proofs.Console.Lawful
import PageHarvest.Proofs.Text.Spelling
import PageHarvest.Report.Printed

/-! # Records that print

In a table of records only the cell of a record's fields may hold a tag, as the index and the URL
always show. Names and values are escaped one by one and then joined, so such a cell holds a tag
just if one of them leaves a tag open that the names and values behind it close.
-/

namespace PageHarvest.Report

open Text Console

/-! ## The cell of the fields -/

/-- The names and values of fields in the order in which they are printed. -/
def textsOf (entries : List (String × String)) : List (List Char) :=
  entries.flatMap fun (name, value) => [name.toList, value.toList]

/-- A name or value of a record ends inside what may be a tag, and the first bracket of the names
and values behind it is a closing one. -/
def Straddles (record : Record) : Prop :=
  ∃ before text after, textsOf record.fields.entries = before ++ text :: after ∧
    leavesOpen 0 text = true ∧ closes after.flatten = true

instance (record : Record) : Decidable (Straddles record) := decidable_of_iff _ straddles_iff

/-- The lines of fields, joined. -/
def joinedLines (entries : List (String × String)) : List Char :=
  ['\n'].intercalate (entries.map fun (name, value) =>
    escaped name ++ ": ".toList ++ escaped value)

private theorem joinedLines_cons (name value : String) (rest : List (String × String)) :
    ∃ more, joinedLines ((name, value) :: rest) =
        escaped name ++ ':' :: ' ' :: (escaped value ++ more) ∧ Apart more ∧
      holdsTag 0 more = holdsTag 0 (joinedLines rest) ∧
        closes more = closes (joinedLines rest) := by
  have colon : ": ".toList = [':', ' '] := rfl
  cases rest with
  | nil => exact ⟨[], by simp [joinedLines, colon], apart_nil, rfl, rfl⟩
  | cons next rest =>
    refine ⟨'\n' :: joinedLines (next :: rest), ?_,
      apart_cons (by decide) (by decide) (by decide) _,
      holdsTag_char (by decide) (by decide) 0 _, closes_cons (by decide) _⟩
    simp [joinedLines, colon, List.intercalate_cons_cons]

/-- Joined lines hold a tag just if a name or value straddles, and they close a tag just if the
names and values do. -/
theorem joinedLines_tags (entries : List (String × String)) :
    holdsTag 0 (joinedLines entries) = straddles (textsOf entries) ∧
      closes (joinedLines entries) = closes (textsOf entries).flatten := by
  induction entries with
  | nil => exact ⟨rfl, rfl⟩
  | cons entry rest ih =>
    obtain ⟨name, value⟩ := entry
    obtain ⟨tags, ends⟩ := ih
    obtain ⟨more, same, apart, moreTags, moreEnds⟩ := joinedLines_cons name value rest
    have texts :
        textsOf ((name, value) :: rest) = name.toList :: value.toList :: textsOf rest := rfl
    have behindName : closes (':' :: ' ' :: (escaped value ++ more)) =
        closes (value.toList ++ (textsOf rest).flatten) := by
      rw [closes_cons (by decide), closes_cons (by decide), escaped, closes_escape]
      exact closes_append_congr _ (moreEnds.trans ends)
    have valueTags : holdsTag 0 (':' :: ' ' :: (escaped value ++ more)) =
        (leavesOpen 0 value.toList && closes (textsOf rest).flatten ||
          straddles (textsOf rest)) := by
      rw [holdsTag_char (by decide) (by decide), holdsTag_char (by decide) (by decide), escaped,
        holdsTag_escape _ apart, moreEnds, ends, moreTags, tags]
    rw [same, texts, escaped]
    constructor
    · rw [holdsTag_escape _ (apart_cons (by decide) (by decide) (by decide) _), behindName,
        valueTags]
      rfl
    · rw [closes_escape]
      exact closes_append_congr _ behindName

/-- The cell of a record's fields holds a tag just if a name or value straddles. -/
theorem holdsTag_fieldsCell (record : Record) :
    holdsTag 0 (fieldsCell record) = true ↔ Straddles record := by
  rw [Straddles, ← straddles_iff, ← (joinedLines_tags record.fields.entries).1]
  rfl

/-! ## Tables -/

private theorem holdsTag_index (n : Nat) : holdsTag 0 (toString n).toList = false := by
  refine holdsTag_of_bare (fun member => ?_) 0
  have digits : (toString n).toList = Nat.toDigits 10 n := String.toList_ofList
  rw [digits] at member
  exact absurd (isDigit_of_mem_toDigits member) (by decide)

private theorem untagged_recordTable {records : List Record}
    (apart : ∀ record ∈ records, ¬Straddles record) : (recordTable records).Untagged where
  title := holdsTag_of_bare (show '[' ∉ "Records".toList by decide) 0
  headings := by
    rw [recordTable, List.forall_mem_cons, List.forall_mem_cons, List.forall_mem_singleton]
    exact ⟨holdsTag_of_bare (show '[' ∉ "#".toList by decide) 0,
      holdsTag_of_bare (show '[' ∉ "URL".toList by decide) 0,
      holdsTag_of_bare (show '[' ∉ "Fields".toList by decide) 0⟩
  cells := by
    rw [recordTable, List.forall_mem_cons, List.forall_mem_cons, List.forall_mem_singleton]
    refine ⟨?indices, ?urls, ?fields⟩
    case indices => exact List.forall_mem_map.mpr fun n _ => holdsTag_index n
    case urls => exact List.forall_mem_map.mpr fun record _ => holdsTag_escape_alone _
    case fields =>
      refine List.forall_mem_map.mpr fun record member => ?_
      exact Bool.eq_false_iff.mpr ((holdsTag_fieldsCell record).not.mpr (apart record member))

/-- In the cell of a record a tag counts just if a name or value ends inside what may be a tag, and
in the names and values behind it the first bracket is a closing one. Records in which there is none
all print, on every console. So printing fails only if there is one. -/
theorem printRecords_unless_straddling {console : Console} (lawful : console.Lawful) :
    (∀ record, AmongTags (pieces (fieldsCell record)) ↔ Straddles record) ∧
    ∀ records, (∀ record ∈ records, ¬Straddles record) →
      ∃ lines, printRecords console records = .ok lines := by
  refine ⟨fun record => ?_, fun records apart => ?_⟩
  · rw [pieces, amongTags_piecesFrom]
    exact holdsTag_fieldsCell record
  · rw [printRecords]
    split
    · exact ⟨[], rfl⟩
    · exact lawful.draws _ (untagged_recordTable apart)

/-- Tags that are whole and a bracket that nothing closes are shown. -/
theorem printRecords_brackets :
    let record : Record := {
      url := some "https://x.test/u"
      fields := .ofList [("title", "[bold]x[/]"), ("note", "see [a"), ("list", "b[c] \\")] }
    (∀ other ∈ [record], ¬Straddles other) ∧ ¬AmongTags (pieces (fieldsCell record)) ∧
      ∃ lines, printRecords (terminal 80) [record] = .ok lines := by
  intro record
  have apart : ∀ other ∈ [record], ¬Straddles other := by decide +kernel
  obtain ⟨tags, prints⟩ := printRecords_unless_straddling (terminal_lawful 80 checkBrackets)
  exact ⟨apart, (tags record).not.mpr (apart record List.mem_cons_self), prints [record] apart⟩

/-- Two values that are harmless by themselves make a closing tag. -/
theorem printRecords_closingTag :
    let record : Record := {
      url := some "https://x.test/u", fields := .ofList [("a", "[/"), ("b", "]")] }
    AmongTags (pieces (fieldsCell record)) ∧
      printRecords (terminal 80) [record] =
        .error (MarkupFault.notOpen "/\nb: ".toList 3).raised := by
  intro record
  constructor
  · have straddles : Straddles record := by decide +kernel
    rw [pieces, amongTags_piecesFrom]
    exact (holdsTag_fieldsCell record).mpr straddles
  · have lost : (recordTable [record]).draw checkBrackets 80 =
        .error (.notOpen "/\nb: ".toList 3) := by decide +kernel
    exact printTable_of_draw_error lost

end PageHarvest.Report
