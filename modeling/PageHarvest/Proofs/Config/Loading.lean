import PageHarvest.Config.File
import PageHarvest.Proofs.Config.Checked
import PageHarvest.Proofs.Config.Meta
import PageHarvest.Proofs.Json.Rest
import PageHarvest.Proofs.Text.Utf8

/-! # How loading a file ends

Loading a file gives a valid configuration or a fault, of which the user is told in most cases. The
others are bytes that are the bytes of no text, a whole number in the text with more digits than are
read, more brackets in it than there is room for, and a nested part that has no members.
-/

namespace PageHarvest.CrawlConfig

open Text Config

/-- Data passes or has issues, unless its nested part has no members. -/
theorem check_eq_error_iff {json : Json} :
    (∃ fault, check json = .error fault) ↔
      ∃ members nested, json.members? = some members ∧ members.lookup "meta" = some nested ∧
        NoMembers nested := by
  rw [check]
  cases json.members? with
  | some members =>
    simp only [Option.some.injEq, ↓existsAndEq, true_and, ← flatten_ends_iff]
    cases flatten members with
    | ok flat =>
      refine iff_of_false ?_ (not_ended_ok _)
      rintro ⟨fault, fails⟩
      cases fails
    | error fault =>
      rw [ended_error_iff]
      cases fault with
      | wrongLength index length =>
        refine iff_of_false ?_ fun ends => ends index length rfl
        rintro ⟨fault, fails⟩
        cases fails
      | _ =>
        refine iff_of_true ⟨_, rfl⟩ ?_
        intro index length same
        cases same
  | none =>
    refine iff_of_false ?_ ?_
    · rintro ⟨fault, fails⟩
      cases fails
    · rintro ⟨members, nested, same, -⟩
      cases same

/-- Text that is not read because of a whole number or the brackets in it, or is read as data with
no flat layout. -/
inductive Unsuited (room : Nat) (text : List Char) : Prop
  | number {count : Nat} (refused : Json.readWithin room text = .error (.tooManyDigits count))
    (run : Json.LongRun count text) : Unsuited room text
  | deep {crowd : Json.Crowd} (refused : Json.readWithin room text = .error (.tooDeep crowd))
    (crowded : Json.Crowded room text) : Unsuited room text
  | nested {json nested : Json} {members : List (String × Json)}
    (read : Json.readWithin room text = .ok json) (object : json.members? = some members)
    (given : members.lookup "meta" = some nested) (empty : NoMembers nested) : Unsuited room text

variable {room : Nat} {path : String} {text : List Char} {config : CrawlConfig}

/-- Data is a configuration exactly when it passes the check. -/
theorem ofJson_eq_ok_iff {json : Json} :
    ofJson json = .ok config ↔ check json = .ok (.sound config) := by
  rw [ofJson]
  cases check json with
  | error fault => exact iff_of_false nofun nofun
  | ok checked =>
    cases checked with
    | sound other => simp [Validate.Checked.result, Except.mapError]
    | unsound issues => exact iff_of_false nofun nofun

private theorem ofJson_nested_iff {json : Json} :
    (∃ fault, ofJson json = .error (.nested fault)) ↔ ∃ fault, check json = .error fault := by
  rw [ofJson]
  cases check json with
  | error fault => exact iff_of_true ⟨fault, rfl⟩ ⟨fault, rfl⟩
  | ok checked =>
    cases checked with
    | sound other => exact iff_of_false nofun nofun
    | unsound issues => exact iff_of_false nofun nofun

/-- An end with a fault of which the user is not told. -/
def Escapes (outcome : Except ConfigFault CrawlConfig) : Prop :=
  ∃ fault, outcome = .error fault ∧ fault.isFatal = false

private theorem not_escapes_ok : ¬ Escapes (.ok config) := fun ⟨_, fails, _⟩ => nomatch fails

private theorem escapes_error_iff {fault : ConfigFault} :
    Escapes (.error fault) ↔ fault.isFatal = false :=
  ⟨fun ⟨_, same, escapes⟩ => Except.error.inj same ▸ escapes, fun escapes => ⟨fault, rfl, escapes⟩⟩

/-- Reading ends so, and in no other of these ways. -/
theorem unsuited_iff :
    Unsuited room text ↔ match Json.readWithin room text with
      | .error (.malformed ..) => False
      | .error (.tooManyDigits _) | .error (.tooDeep _) => True
      | .ok json => ∃ fault, check json = .error fault := by
  constructor
  · rintro (⟨refused, -⟩ | ⟨refused, -⟩ | ⟨read, object, given, empty⟩)
    · rw [refused]
      exact trivial
    · rw [refused]
      exact trivial
    · rw [read]
      exact check_eq_error_iff.mpr ⟨_, _, object, given, empty⟩
  · intro ends
    split at ends
    · exact ends.elim
    · rename_i refused
      exact .number refused ((Json.readWithin_staysIn room text).1 _ refused)
    · rename_i refused
      exact .deep refused ((Json.readWithin_staysIn room text).2 _ refused)
    · rename_i read
      obtain ⟨members, nested, object, given, empty⟩ := check_eq_error_iff.mp ends
      exact .nested read object given empty

/-- The bytes of a text end as the text does. -/
theorem escapes_ofFile_encode :
    Escapes (ofFile room path (.ok (Utf8.encode text))) ↔
      Unsuited room (unifyLineEnds text) := by
  have decoded := Utf8.decode_eq_ok_iff.mpr (Eq.refl (Utf8.encode text))
  rw [unsuited_iff]
  simp only [ofFile, Except.mapError, decoded, bind, Except.bind]
  cases Json.readWithin room (unifyLineEnds text) with
  | error reason =>
    simp only [escapes_error_iff]
    cases reason with
    | malformed kind line column position => exact iff_of_false (by simp [ConfigFault.isFatal]) id
    | tooManyDigits count => exact iff_of_true rfl trivial
    | tooDeep crowd => exact iff_of_true rfl trivial
  | ok json =>
    change _ ↔ ∃ fault, check json = .error fault
    rw [← ofJson_nested_iff]
    cases accepted : ofJson json with
    | error refusal =>
      simp only [accepted, escapes_error_iff]
      cases refusal with
      | nested fault => exact iff_of_true rfl ⟨fault, rfl⟩
      | invalid invalid => exact iff_of_false nofun nofun
    | ok config =>
      simp only [accepted]
      exact iff_of_false not_escapes_ok nofun

/-- Bytes of no text end with a fault of which the user is not told. -/
theorem escapes_ofFile_of_not_text {bytes : List Nat}
    (unknown : ¬∃ text, bytes = Utf8.encode text) :
    Escapes (ofFile room path (.ok bytes)) := by
  cases decoded : Utf8.decode bytes with
  | error fault =>
    refine ⟨.notText fault, ?_, rfl⟩
    simp only [ofFile, Except.mapError, decoded, bind, Except.bind]
  | ok text => exact absurd ⟨text, Utf8.decode_eq_ok_iff.mp decoded⟩ unknown

/-- Loading a file gives a valid configuration or a fault, and the user is told of every fault but
four: bytes that are no text, a number in the text that is too long, brackets for which there is no
room, and a nested part without members. -/
theorem ofFile_ends (room : Nat) (path : String) (content : Except Files.Fault (List Nat)) :
    (∀ config, ofFile room path content = .ok config → config.Valid) ∧
      (Escapes (ofFile room path content) ↔ ∃ bytes, content = .ok bytes ∧
        ((¬∃ text, bytes = Utf8.encode text) ∨
          ∃ text, bytes = Utf8.encode text ∧ Unsuited room (unifyLineEnds text))) := by
  constructor
  · intro config loaded
    obtain ⟨bytes, -, loaded⟩ := exists_of_bind_eq_ok loaded
    obtain ⟨text, -, loaded⟩ := exists_of_bind_eq_ok loaded
    obtain ⟨json, -, loaded⟩ := exists_of_bind_eq_ok loaded
    exact valid_iff.mpr ⟨json, ofJson_eq_ok_iff.mp (eq_ok_of_mapError loaded)⟩
  · cases content with
    | error fault =>
      refine iff_of_false ?_ nofun
      rintro ⟨_, same, escapes⟩
      cases same
      cases escapes
    | ok bytes =>
      simp only [Except.ok.injEq, exists_eq_left']
      by_cases known : ∃ text, bytes = Utf8.encode text
      · obtain ⟨text, rfl⟩ := known
        rw [escapes_ofFile_encode]
        constructor
        · exact fun unsuited => .inr ⟨text, rfl, unsuited⟩
        · rintro (unknown | ⟨other, same, unsuited⟩)
          · exact absurd ⟨text, rfl⟩ unknown
          · rwa [Utf8.encode_injective same]
      · exact iff_of_true (escapes_ofFile_of_not_text known) (.inl known)

private theorem unifyLineEnds_of_forall_ne (plain : ∀ c ∈ text, c ≠ '\r') :
    unifyLineEnds text = text := by
  induction text with
  | nil => rfl
  | cons c text ih =>
    obtain ⟨first, later⟩ := List.forall_mem_cons.mp plain
    rw [unifyLineEnds, if_neg first, ih later]
    exact fun _ same => absurd same first

/-- A nested part that is a number is no fault of which the user is told, nor are brackets without
end. -/
theorem ofFile_ends_untold :
    Escapes (ofFile 992 "crawl.json"
      (.ok (Utf8.encode ['\x7b', '"', 'm', 'e', 't', 'a', '"', ':', '5', '\x7d']))) ∧
      Escapes (ofFile 992 "crawl.json" (.ok (Utf8.encode (List.replicate 993 '[')))) := by
  have value :
      Json.readValue 992 21 ['\x7b', '"', 'm', 'e', 't', 'a', '"', ':', '5', '\x7d'] =
        .ok (.object [("meta", .int 5)], []) := by
    rfl
  have read : Json.readWithin 992 ['\x7b', '"', 'm', 'e', 't', 'a', '"', ':', '5', '\x7d'] =
      .ok (.object [("meta", .int 5)]) := by
    simp [Json.readWithin, Json.skipSpace, Json.isSpace, value]
    rfl
  have deep : Json.readWithin 992 (unifyLineEnds (List.replicate 993 '[')) =
      .error (.tooDeep .array) := by
    have plain : unifyLineEnds (List.replicate 993 '[') = List.replicate 993 '[' :=
      unifyLineEnds_of_forall_ne fun c among => by
        rw [List.eq_of_mem_replicate among]
        decide
    have brackets := Json.readWithin_brackets 992 []
    rwa [List.append_nil, ← plain] at brackets
  exact ⟨(ofFile_ends 992 "crawl.json" _).2.mpr
      ⟨_, rfl, .inr ⟨_, rfl, .nested read rfl rfl (.whole (by decide))⟩⟩,
    (ofFile_ends 992 "crawl.json" _).2.mpr
      ⟨_, rfl, .inr ⟨_, rfl, .deep deep ((Json.readWithin_staysIn _ _).2 _ deep)⟩⟩⟩

/-- Not every fault is told: here, one byte that begins no character. -/
theorem ofFile_latin1 :
    ¬∀ room path content, (∃ config, ofFile room path content = .ok config ∧ config.Valid) ∨
      ∃ fault, ofFile room path content = .error fault ∧ fault.isFatal = true := by
  intro told
  obtain ⟨_, loaded, -⟩ | ⟨fault, fails, fatal⟩ := told 992 "crawl.json" (.ok [0xFF])
  · cases loaded
  · cases fails
    cases fatal

end PageHarvest.CrawlConfig
