import PageHarvest.Config.File
import PageHarvest.Proofs.Config.Checked
import PageHarvest.Proofs.Config.Loading

/-! # Data with one member set anew

Data that passes as a configuration still does with another value for its number of workers, as long
as that is one at least, or for whether it is run in parallel. A smaller number of workers is the
only issue of such data.
-/

namespace PageHarvest

open Validate Text

namespace CrawlConfig

variable {config : CrawlConfig} {members others : List (String × Json)} {count : Int}

/-- The same members but for one, which has a value of its own. -/
def Amends (members others : List (String × Json)) (name : String) (value : Json) : Prop :=
  ∀ other, others.lookup other = if other = name then some value else members.lookup other

theorem Amends.lookup {name : String} {value : Json} (amends : Amends members others name value) :
    others.lookup name = some value :=
  (amends name).trans (if_pos rfl)

private theorem Amends.lookup_of_ne {name other : String} {value : Json}
    (amends : Amends members others name value) (apart : other ≠ name) :
    others.lookup other = members.lookup other :=
  (amends other).trans (if_neg apart)

/-- A member that was not there may be added. -/
theorem amends_append {name : String} (fresh : members.lookup name = none) (value : Json) :
    Amends members (members ++ [(name, value)]) name value := by
  intro other
  rw [List.lookup_append]
  by_cases same : other = name
  · rw [same, fresh, if_pos rfl, Option.none_or, List.lookup_cons_self]
  · rw [if_neg same, List.lookup_cons, beq_false_of_ne same]
    exact Option.or_none

/-- The check comes down to the two members that are not as they were. -/
theorem Gives.checkMembers_eq (gives : Gives members config)
    (same : ∀ name, name ≠ "parallel" → name ≠ "workers" →
      others.lookup name = members.lookup name) :
    checkMembers others = (fun parallel workers => { config with parallel, workers }) <$>
      optional others "parallel" true bool <*> optional others "workers" 8 (integerFrom 1) := by
  have kept {α : Type} (name : String) {default : α} {check : Check α}
      (apart : name ≠ "parallel" ∧ name ≠ "workers") :
      optional others name default check = optional members name default check := by
    rw [Validate.optional, Validate.optional, same name apart.1 apart.2]
  have baseUrl : required others "base_url" text = required members "base_url" text := by
    rw [required, required, same "base_url" (by decide) (by decide)]
  rw [checkMembers, kept "populator" (by decide), gives.populator, baseUrl, gives.baseUrl,
    kept "paths" (by decide), gives.paths, kept "link_path" (by decide), gives.linkPath,
    kept "paging" (by decide), gives.paging, kept "max_pages" (by decide), gives.maxPages,
    kept "link_prefix" (by decide), gives.linkPrefix, kept "fields" (by decide), gives.fields,
    kept "deadline" (by decide), gives.deadline]
  cases optional others "parallel" true bool <;>
    cases optional others "workers" 8 (integerFrom 1) <;> rfl

section

variable (gives : Gives members config)

include gives

/-- A member that turns parallel crawling off is all that differs in the configuration. -/
theorem Gives.checkMembers_parallel (amends : Amends members others "parallel" (.bool false)) :
    checkMembers others = .sound { config with parallel := false } := by
  have parallel : optional others "parallel" true bool = .sound false :=
    optional_sound amends.lookup rfl
  have workers : optional others "workers" 8 (integerFrom 1) = .sound config.workers := by
    rw [← gives.workers, Validate.optional, Validate.optional, amends.lookup_of_ne (by decide)]
  rw [gives.checkMembers_eq fun _ apart _ => amends.lookup_of_ne apart, parallel, workers]
  rfl

variable (amends : Amends members others "workers" (.int count))

include amends

private theorem Gives.checkMembers_workers_eq : checkMembers others =
    (fun workers => { config with workers }) <$> optional others "workers" 8 (integerFrom 1) := by
  have parallel : optional others "parallel" true bool = .sound config.parallel := by
    rw [← gives.parallel, Validate.optional, Validate.optional, amends.lookup_of_ne (by decide)]
  rw [gives.checkMembers_eq fun _ _ apart => amends.lookup_of_ne apart, parallel]
  cases optional others "workers" 8 (integerFrom 1) <;> rfl

/-- A number of workers that is large enough is all that differs in the configuration. -/
theorem Gives.checkMembers_workers (enough : 1 ≤ count) :
    checkMembers others = .sound { config with workers := count } := by
  have workers : optional others "workers" 8 (integerFrom 1) = .sound count :=
    optional_sound amends.lookup (integerFrom_eq_sound_iff.mpr ⟨rfl, enough⟩)
  rw [gives.checkMembers_workers_eq amends, workers]
  rfl

/-- What is wrong where there are too few workers. -/
def fewWorkers : Issue := ⟨[.name "workers"], .atLeast 1⟩

/-- Too few workers are the one issue of members that are sound otherwise. -/
theorem Gives.checkMembers_fewWorkers (few : count < 1) :
    checkMembers others = .unsound [fewWorkers] := by
  have workers : optional others "workers" 8 (integerFrom 1) = .unsound [fewWorkers] := by
    have refused : integerFrom 1 (.int count) = .unsound [⟨[], .atLeast 1⟩] := by
      rw [integerFrom]
      exact if_neg (Int.not_le.mpr few)
    rw [Validate.optional, amends.lookup]
    dsimp only
    rw [refused]
    rfl
  rw [gives.checkMembers_workers_eq amends, workers]
  rfl

end

/-! ## Files of the flat layout -/

/-- A text that holds members in the flat layout, as read with room for so many calls. -/
structure FlatText (room : Nat) (text : String) (members : List (String × Json)) : Prop where
  read : Json.readWithin room (unifyLineEnds text.toList) = .ok (.object members)
  flat : members.lookup "meta" = none

/-- Members in the flat layout are held by the text that is written of them. -/
theorem FlatText.of_write {room : Nat} {text : String} (tidy : Json.Tidy (.object members))
    (brief : Json.Brief (.object members)) (flat : members.lookup "meta" = none)
    (written : unifyLineEnds text.toList = Json.write (.object members))
    (fits : (unifyLineEnds text.toList).length ≤ room) : FlatText room text members where
  read := by
    rw [written] at fits ⊢
    exact (Json.reads_write tidy brief).within fits
  flat := flat

/-- A file that holds the members of a flat configuration gives what they give. -/
theorem FlatText.ofFile_eq {room : Nat} {text : String} (holds : FlatText room text members)
    (path : String) :
    ofFile room path (.ok (Utf8.encode text.toList)) =
      ((checkMembers members).result "CrawlConfig").mapError fun invalid =>
        .refused path (.invalid invalid) (invalid.report (.object members)) := by
  have decoded := Utf8.decode_eq_ok_iff.mpr (Eq.refl (Utf8.encode text.toList))
  have whole : flatData (.object members) = .object members := by
    rw [flatData, Json.get?, Json.members?, Option.bind_some, holds.flat]
  simp only [ofFile, Except.mapError, decoded, holds.read, bind, Except.bind, ofJson,
    check_object_of_flat holds.flat]
  cases checkMembers members with
  | sound config => rfl
  | unsound issues => simp only [Checked.result, whole]

theorem FlatText.loads {room : Nat} {text : String} (holds : FlatText room text members)
    (passes : checkMembers members = .sound config) (path : String) :
    ofFile room path (.ok (Utf8.encode text.toList)) = .ok config := by
  rw [holds.ofFile_eq, passes]
  rfl

/-! ## The report on too few workers -/

/-- What the report says in front of its brackets. -/
def fewWorkersFront : String :=
  "1 validation error for CrawlConfig" ++ "\n" ++ "workers\n" ++ "  " ++
    "Input should be greater than or equal to 1" ++ " "

/-- What it says between them. -/
def fewWorkersTag (count : Int) : String :=
  "type=" ++ "greater_than_equal" ++ ", " ++ "input_value=" ++ shortened (toString count) ++
    ", input_type=" ++ "int"

/-- The report on too few workers is one line with one pair of brackets. -/
theorem report_fewWorkers (given : others.lookup "workers" = some (.int count)) :
    (⟨"CrawlConfig", [fewWorkers]⟩ : Invalid).report (.object others) =
      fewWorkersFront ++ "[" ++ fewWorkersTag count ++ "]" := by
  have value : valueAt (.object others) fewWorkers.place = .int count := by
    simp only [fewWorkers, valueAt, Json.get?, Json.members?, Option.bind_some, given]
  have place : (if fewWorkers.place.isEmpty then ""
      else ".".intercalate (fewWorkers.place.map Key.text) ++ "\n") = "workers\n" := by
    decide +kernel
  have message : fewWorkers.cause.message = "Input should be greater than or equal to 1" := by
    decide +kernel
  have code : fewWorkers.cause.code = "greater_than_equal" := rfl
  have summary : (⟨"CrawlConfig", [fewWorkers]⟩ : Invalid).summary =
      "1 validation error for CrawlConfig" := by
    decide +kernel
  have lines (first second : String) :
      "\n".intercalate [first, second] = first ++ "\n" ++ second := rfl
  have opened : " [type=" = " " ++ "[" ++ "type=" := by decide
  -- The equations of reports are slow to come by, since they compare texts.
  delta Invalid.report
  rw [List.map_cons, List.map_nil, lines, summary]
  delta Issue.report
  dsimp only
  rw [value, place, message, code, opened]
  delta fewWorkersFront fewWorkersTag
  simp only [display, kindName, toString, String.append_assoc]

end CrawlConfig

namespace Validate

private theorem mem_of_mem_beginningOf {c : Char} {text : List Char} {bytes : Nat}
    (among : c ∈ beginningOf bytes text) : c ∈ text := by
  fun_induction beginningOf bytes text with
  | case1 => cases among
  | case2 bytes d rest fits ih =>
    rcases List.mem_cons.mp among with rfl | later
    · exact List.mem_cons_self
    · exact List.mem_cons_of_mem d (ih later)
  | case3 => cases among

/-- Shortening a text brings in nothing but points. -/
theorem mem_of_mem_shortened {c : Char} {text : String} (among : c ∈ (shortened text).toList)
    (mark : c ≠ '.') : c ∈ text.toList := by
  rw [shortened] at among
  split at among
  · exact among
  · simp only [String.toList_append, String.toList_ofList, List.mem_append, List.mem_reverse]
      at among
    rcases among with (front | dots) | back
    · exact mem_of_mem_beginningOf front
    · exact absurd (by simpa using dots) mark
    · exact List.mem_reverse.mp (mem_of_mem_beginningOf back)

end Validate

end PageHarvest
