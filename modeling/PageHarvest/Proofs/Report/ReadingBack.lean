import PageHarvest.Proofs.Config.Checked
import PageHarvest.Proofs.Json.Indented
import PageHarvest.Proofs.Project.Written

/-! # Results that are read back

A saved result is data of its records and failures with more members around it, which no check looks
at. Texts of any characters come back, and names in the order in which they stand, so the result
does, unless a page number in it has too many digits. Such a result is not saved as a whole. Records
have no numbers at all.
-/

namespace PageHarvest

open Files Json Validate Validate.Checked

/-! ## Parts of a result -/

namespace Validate

private theorem brief_zero : Brief (.int 0) := .int (Nat.pow_pos (by decide))

private theorem faithful_integer : Faithful integer .int where
  passes _ := rfl
  tidy := .int
  brief _ _ brief passes := .int (short_of_integer brief passes)

private theorem brief_ofString? (text : Option String) : Brief (.ofString? text) := by
  cases text with
  | none => exact .null
  | some s => exact .string s

private theorem faithful_textOrNull : Faithful (orNull text) .ofString? where
  passes := orNull_text
  tidy text := by
    cases text with
    | none => exact .null
    | some s => exact .string s
  brief _ text _ _ := brief_ofString? text

end Validate

namespace Record

private theorem brief_toJson (record : Record) : Brief record.toJson := by
  have fields : Brief (.ofFields record.fields .string) :=
    .object (List.forall_mem_map.mpr fun entry _ => .string entry.2)
  have values : Brief (.strings record.values) :=
    .array (List.forall_mem_map.mpr fun value _ => .string value)
  exact .object (List.forall_mem_cons.mpr ⟨brief_ofString? record.url,
    List.forall_mem_cons.mpr ⟨fields, List.forall_mem_singleton.mpr values⟩⟩)

private theorem faithful : Faithful Record.check Record.toJson where
  passes record :=
    seq_sound (seq_sound
      (map_sound _ (optional_sound rfl (faithful_textOrNull.passes record.url)))
      (optional_sound rfl (faithful_text.map.passes record.fields)))
      (optional_sound rfl ((faithful_text.list _).passes record.values))
  tidy record :=
    .object (by simp) (List.forall_mem_cons.mpr ⟨faithful_textOrNull.tidy record.url,
      List.forall_mem_cons.mpr ⟨faithful_text.map.tidy record.fields,
        List.forall_mem_singleton.mpr ((faithful_text.list .listExpected).tidy record.values)⟩⟩)
  brief _ record _ _ := record.brief_toJson

end Record

namespace CrawlFailure

private theorem brief_toJson {failure : CrawlFailure} (page : Brief (.int failure.page)) :
    Brief failure.toJson :=
  .object (List.forall_mem_cons.mpr ⟨.string failure.url,
    List.forall_mem_cons.mpr ⟨.string failure.reason, List.forall_mem_singleton.mpr page⟩⟩)

private theorem brief_toJson_iff {failure : CrawlFailure} :
    Brief failure.toJson ↔ failure.page.natAbs < 10 ^ maxDigits := by
  refine ⟨fun brief => ?_, fun short => brief_toJson (.int short)⟩
  rw [toJson] at brief
  have page := brief.member (rfl : List.lookup "page" _ = some (.int failure.page))
  exact brief_int_iff.mp page

private theorem faithful : Faithful CrawlFailure.check CrawlFailure.toJson where
  passes failure :=
    seq_sound (seq_sound
      (map_sound _ (required_sound rfl (faithful_text.passes failure.url)))
      (required_sound rfl (faithful_text.passes failure.reason)))
      (optional_sound rfl (faithful_integer.passes failure.page))
  tidy failure :=
    .object (by simp) (List.forall_mem_cons.mpr ⟨.string failure.url,
      List.forall_mem_cons.mpr ⟨.string failure.reason,
        List.forall_mem_singleton.mpr (.int failure.page)⟩⟩)
  brief json failure brief passes := by
    obtain ⟨members, known, built⟩ := model_eq_sound_iff.mp passes
    obtain ⟨_, page, told, paged, rfl⟩ := seq_eq_sound_iff.mp built
    obtain ⟨_, reason, named, -, rfl⟩ := seq_eq_sound_iff.mp told
    obtain ⟨url, -, rfl⟩ := Checked.map_eq_sound_iff.mp named
    have object := brief.of_members? known
    exact brief_toJson (faithful_integer.brief.optional object brief_zero paged)

end CrawlFailure

/-- No page number of a result has more digits than are read. -/
structure CrawlResult.Short (result : CrawlResult) : Prop where
  pages : result.pages.natAbs < 10 ^ maxDigits
  failures : ∀ failure ∈ result.failures, failure.page.natAbs < 10 ^ maxDigits

namespace Report

variable {base : String} {now : Timestamp} {result : CrawlResult}

/-! ## The data of a saved result -/

private theorem brief_saved (pages : Brief (.int result.pages))
    (failures : Brief (.array (result.failures.map CrawlFailure.toJson))) :
    Brief (saved base now result) := by
  have records : Brief (.array (result.records.map Record.toJson)) :=
    .array (List.forall_mem_map.mpr fun record _ => record.brief_toJson)
  exact .object (List.forall_mem_cons.mpr ⟨.string base, List.forall_mem_cons.mpr
    ⟨.string now.iso, List.forall_mem_cons.mpr ⟨pages, List.forall_mem_cons.mpr
      ⟨records, List.forall_mem_singleton.mpr failures⟩⟩⟩⟩)

/-- A saved result holds no overlong number exactly if the result does not. -/
theorem brief_saved_iff : Brief (saved base now result) ↔ result.Short := by
  constructor
  · intro brief
    rw [saved] at brief
    have pages := brief.member (rfl : List.lookup "pages" _ = some (.int result.pages))
    have failures := brief.member (rfl : List.lookup "failures" _ = some (.array _))
    refine ⟨brief_int_iff.mp pages, fun failure member => CrawlFailure.brief_toJson_iff.mp ?_⟩
    exact brief_array_iff.mp failures failure.toJson (List.mem_map_of_mem member)
  · intro short
    exact brief_saved (.int short.pages) (.array (List.forall_mem_map.mpr
      fun failure member => CrawlFailure.brief_toJson_iff.mpr (short.failures failure member)))

/-- Checked as a result, what was saved gives the result back: it has all members of a result's own
data, and others do not count. -/
theorem faithful_saved (base : String) (now : Timestamp) :
    Faithful CrawlResult.check (saved base now) where
  passes result :=
    seq_sound (seq_sound
      (map_sound _ (optional_sound rfl ((Record.faithful.list _).passes result.records)))
      (optional_sound rfl ((CrawlFailure.faithful.list _).passes result.failures)))
      (optional_sound rfl (faithful_integer.passes result.pages))
  tidy result :=
    .object (by simp) (List.forall_mem_cons.mpr ⟨.string base, List.forall_mem_cons.mpr
      ⟨.string now.iso, List.forall_mem_cons.mpr ⟨.int result.pages, List.forall_mem_cons.mpr
        ⟨(Record.faithful.list .listExpected).tidy result.records, List.forall_mem_singleton.mpr
          ((CrawlFailure.faithful.list .listExpected).tidy result.failures)⟩⟩⟩⟩)
  brief json result brief passes := by
    obtain ⟨members, known, built⟩ := model_eq_sound_iff.mp passes
    obtain ⟨_, pages, told, counted, rfl⟩ := seq_eq_sound_iff.mp built
    obtain ⟨_, failures, kept, listed, rfl⟩ := seq_eq_sound_iff.mp told
    obtain ⟨records, -, rfl⟩ := Checked.map_eq_sound_iff.mp kept
    have object := brief.of_members? known
    exact brief_saved (faithful_integer.brief.optional object brief_zero counted)
      ((CrawlFailure.faithful.list _).brief.optional object (.array (List.forall_mem_nil _)) listed)

/-! ## The text of a saved result -/

section

variable {location : Location} {tree : Tree}

/-- Where a file may be written, a page number with too many digits is all that makes saving break
off. -/
theorem save_ends (allows : tree.Allows location) :
    (result.Short → ((save location base now result).run.run tree).1 = .ok ()) ∧
      (¬result.Short →
        ((save location base now result).run.run tree).1 = .error .tooManyDigits) := by
  constructor
  · intro short
    obtain ⟨after, ran, -⟩ := run_save allows (brief_saved_iff.mpr short)
    rw [ran]
  · intro long
    obtain ⟨after, ran⟩ := run_save_of_not_brief allows (mt brief_saved_iff.mp long)
    rw [ran]

end

/-- A result is saved as a whole just if no page number in it has too many digits. What is then read
is a text that parses as JSON with the address and the number of pages that were given, and checked
as a result, that JSON gives back all records and failures in order, each record with its names in
order. All this holds whatever characters the texts have. Where a page number has too many digits,
saving breaks off, and no JSON could give the result back. -/
theorem saved_reads_back (base : String) (now : Timestamp) (result : CrawlResult) :
    (∀ location tree, tree.Allows location →
      ∃ outcome after, (save location base now result).run.run tree = (outcome, after) ∧
        (result.Short → outcome = .ok ()) ∧
        (¬result.Short → outcome = .error .tooManyDigits)) ∧
    (∀ location tree after, (save location base now result).run.run tree = (.ok (), after) →
      result.Short ∧ after.read location = .ok (savedText base now result)) ∧
    ((∃ json, Json.parse (savedText base now result) = .ok json ∧
        json.get? "base_url" = some (.string base) ∧
        json.get? "pages" = some (.int result.pages) ∧
        CrawlResult.check json = .sound result) ↔ result.Short) := by
  have faithful := faithful_saved base now
  refine ⟨fun location tree allows => ?_, fun location tree after saves => ?_, ?_, fun short => ?_⟩
  · exact ⟨_, _, (Prod.eta _).symm, save_ends allows⟩
  · obtain ⟨brief, reads⟩ := read_of_save saves
    exact ⟨brief_saved_iff.mp brief, reads⟩
  · rintro ⟨json, read, -, -, passes⟩
    exact brief_saved_iff.mp (faithful.brief json result (brief_of_readWithin read) passes)
  · have read : Json.parse (savedText base now result) = .ok (saved base now result) :=
      (parse_indented_iff (faithful.tidy result)).mpr (brief_saved_iff.mpr short)
    exact ⟨saved base now result, read, rfl, rfl, faithful.passes result⟩

def sampleTime : Timestamp :=
  { year := 2024, month := 5, day := 1, hour := 12, minute := 30, second := 0 }

/-- A result with quotes, a line break and letters outside ASCII in it. -/
def sampleResult : CrawlResult where
  records := [{
    url := some "https://x.test/a", values := ["\\"]
    fields := ⟨[("größe", "\"1\"\n"), ("a", "𝄞")], by decide⟩ }]
  failures := [{ url := "https://x.test/b", reason := "HTTP 404", page := -1 }]
  pages := 2

private theorem short_sampleResult : sampleResult.Short where
  pages := (by decide : (2 : Int).natAbs < 10).trans_le (Nat.le_self_pow (by decide) 10)
  failures := by
    rw [sampleResult, List.forall_mem_singleton]
    exact (by decide : (-1 : Int).natAbs < 10).trans_le (Nat.le_self_pow (by decide) 10)

/-- A result that is saved next to the program comes back. -/
theorem saved_reads_back_sample :
    let location := Location.ofPath [] "r.json"
    let text := savedText "https://x.test/" sampleTime sampleResult
    ((save location "https://x.test/" sampleTime sampleResult).run.run {}).1 = .ok () ∧
      ((save location "https://x.test/" sampleTime sampleResult).run.run {}).2.read location =
        .ok text ∧
      ∃ json, Json.parse text = .ok json ∧ CrawlResult.check json = .sound sampleResult := by
  intro location text
  have allows : ({} : Tree).Allows location := by
    have free : ({} : Tree).at? (goal location.start location.names) = none := by decide +kernel
    have stops : ∀ stop ∈ stops location.start location.names,
        ({} : Tree).at? stop = some .folder := by decide +kernel
    exact {
      somewhere := by decide +kernel, begins := by decide +kernel
      clear := fun stop stopped => .inr (stops stop stopped), bare := by simp [free]
      solid := fun target => by simp [free], apart := by decide +kernel
      asFile := by decide +kernel }
  obtain ⟨saves, reads, back⟩ := saved_reads_back "https://x.test/" sampleTime sampleResult
  obtain ⟨outcome, after, ran, ends, -⟩ := saves location {} allows
  rw [ends short_sampleResult] at ran
  obtain ⟨json, parsed, -, -, passes⟩ := back.mpr short_sampleResult
  rw [ran]
  exact ⟨rfl, (reads location {} after ran).2, json, parsed, passes⟩

/-- A number of pages with one digit too many is not put down: saving breaks off, and what the file
then holds is no JSON. -/
theorem saved_longPages :
    let result : CrawlResult := { pages := (10 ^ 4300 : Nat) }
    let lost := (save (.ofPath [] "r.json") "u" sampleTime result).run.run {}
    let part := "\x7b\n  \"base_url\": \"u\",\n  " ++
      "\"extracted_at\": \"2024-05-01T12:30:00\",\n  \"pages\": "
    lost.1 = .error .tooManyDigits ∧ lost.2.read (.ofPath [] "r.json") = .ok (.text part) ∧
      (Json.parse part).isOk = false := by
  decide +kernel

end Report

end PageHarvest
