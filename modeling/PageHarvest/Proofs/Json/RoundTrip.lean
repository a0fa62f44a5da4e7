import Mathlib.Data.List.TakeWhile
import PageHarvest.Proofs.FieldMap
import PageHarvest.Proofs.Json.Token
import PageHarvest.Proofs.Traverse

/-! # Reading values back

A text may be read as a value wherever the value may end; arrays and objects of such texts are such
texts again, with blanks between them as both forms of writing put them. So a value comes back from
its compact text if it has no floats, no name twice in an object and no whole number of more digits
than are read, and nothing that is read has such a number.
-/

namespace PageHarvest.Json

/-! ## What is read -/

/-- Whether a text begins as values do: with no blank, end of an array or byte order mark. -/
def beginsValue (text : List Char) : Bool :=
  text.head?.any fun c => !isSpace c && c != ']' && c != Char.ofNat 0xFEFF

/-- A text that is read as a value before any text that ends it, with room for a call per character
and fuel for twice its length. -/
structure Reads (text : List Char) (json : Json) : Prop where
  begins : beginsValue text = true
  read : ∀ room fuel rest, text.length ≤ room → 2 * text.length ≤ fuel → endsNumber rest = true →
    readValue room fuel (text ++ rest) = .ok (json, rest)

/-- A text that is read as the items of an array from the first one on, with its end. -/
structure ReadsItems (text : List Char) (items : List Json) : Prop where
  begins : beginsValue text = true
  read : ∀ room fuel rest, text.length ≤ room → 2 * text.length ≤ fuel →
    readItems room fuel (text ++ rest) = .ok (items, rest)

/-- A member as it is read. -/
def spelled (member : String × Json) : List Glyph × Json :=
  (member.1.toList.map .char, member.2)

/-- A text that is read as the members of an object from the first one on, with its end. -/
structure ReadsMembers (text : List Char) (members : List (String × Json)) : Prop where
  begins : text.head? = some '"'
  read : ∀ room fuel (seen : List (String × Json)) rest, text.length ≤ room →
    2 * text.length ≤ fuel → ((seen ++ members).map Prod.fst).Nodup →
    readMembers room fuel (seen.map spelled) (text ++ rest) =
      .ok ((seen ++ members).map spelled, rest)

/-- Blanks that may stand between tokens. -/
def Gap (blanks : List Char) : Prop := ∀ c ∈ blanks, isSpace c = true

private theorem gap_nil : Gap [] := nofun

/-! ### Glyphs that are characters -/

private theorem spell?_chars (chars : List Char) :
    Glyph.spell? (chars.map .char) = some (String.ofList chars) := by
  have each : (chars.map Glyph.char).mapM Glyph.char? = some chars := by
    induction chars with
    | nil => rfl
    | cons c chars ih => simp [ih, Glyph.char?]
  rw [Glyph.spell?, each, Option.map_some]

private theorem ofGlyphs_chars (s : String) : ofGlyphs (s.toList.map .char) = .string s := by
  rw [ofGlyphs, spell?_chars, String.ofList_toList]

private theorem ofMembers_spelled (members : List (String × Json)) :
    ofMembers (members.map spelled) = .object members := by
  have each {read : List Glyph × Json → Option (String × Json)}
      (back : ∀ member, read (spelled member) = some member) :
      (members.map spelled).mapM read = some members := by
    induction members with
    | nil => rfl
    | cons member members ih =>
      rw [List.map_cons, List.mapM_cons, ih, back]
      rfl
  rw [ofMembers, each fun member => by simp [spelled, spell?_chars]]

private theorem chars_injective {s t : String}
    (same : s.toList.map Glyph.char = t.toList.map Glyph.char) : s = t := by
  have spells := spell?_chars s.toList
  rw [same, spell?_chars, String.ofList_toList, String.ofList_toList] at spells
  exact (Option.some.inj spells).symm

section

variable {gap gap' text others rest after : List Char} {json item : Json} {items : List Json}
  {members seen : List (String × Json)} {known : List (List Glyph × Json)} {name : String}
  {glyphs : List Glyph} {room fuel : Nat}

private theorem skipSpace_gap (blank : Gap gap) {c : Char} (solid : isSpace c = false)
    (rest : List Char) :
    skipSpace (gap ++ c :: rest) = c :: rest := by
  rw [skipSpace, List.dropWhile_append_of_pos blank]
  simp [solid]

private theorem skipSpace_begins (blank : Gap gap) (begins : beginsValue text = true)
    (rest : List Char) :
    skipSpace (gap ++ (text ++ rest)) = text ++ rest := by
  cases text with
  | nil => cases begins
  | cons c text =>
    have solid : isSpace c = false := by simp_all [beginsValue]
    exact skipSpace_gap blank solid _

private theorem endsNumber_gap (blank : Gap gap) {c : Char} (ends : endsNumber [c] = true)
    (rest : List Char) : endsNumber (gap ++ c :: rest) = true := by
  cases gap with
  | nil => exact ends
  | cons b gap =>
    have space := blank b List.mem_cons_self
    simp only [isSpace, Bool.or_eq_true, beq_iff_eq] at space
    obtain ((rfl | rfl) | rfl) | rfl := space
    all_goals rfl

/-! ## Values without parts -/

private theorem Reads.of_succ (begins : beginsValue text = true)
    (read : ∀ room fuel rest, endsNumber rest = true →
      readValue (room + 1) (fuel + 1) (text ++ rest) = .ok (json, rest)) : Reads text json where
  begins
  read room fuel rest roomy enough ends := by
    cases text with
    | nil => cases begins
    | cons c text =>
      rw [List.length_cons] at roomy enough
      obtain ⟨room, rfl⟩ := Nat.exists_eq_add_one_of_ne_zero (show room ≠ 0 by omega)
      obtain ⟨fuel, rfl⟩ := Nat.exists_eq_add_one_of_ne_zero (show fuel ≠ 0 by omega)
      exact read room fuel rest ends

theorem reads_null : Reads "null".toList .null :=
  Reads.of_succ rfl fun _ _ _ _ => rfl

theorem reads_bool (value : Bool) : Reads (write (.bool value)) (.bool value) := by
  cases value with
  | false => exact Reads.of_succ rfl fun _ _ _ _ => rfl
  | true => exact Reads.of_succ rfl fun _ _ _ _ => rfl

theorem reads_string (s : String) : Reads (writeString s) (.string s) := by
  refine Reads.of_succ rfl fun room fuel rest _ => ?_
  have read := readQuoted_writeString s rest
  simp only [writeString, List.cons_append] at read ⊢
  rw [readValue, read, ← ofGlyphs_chars s]
  rfl

private theorem readWord_digit {c : Char} (digit : isDigit c = true) (text : List Char) :
    readWord (c :: text) = none := by
  have apart (other : Char) (stands : isDigit other = false) : ¬other = c :=
    (apart_of_isDigit digit stands).symm
  simp [readWord, words, apart 'n' rfl, apart 't' rfl, apart 'f' rfl, apart 'N' rfl,
    apart 'I' rfl, apart '-' rfl]

private theorem readWord_minus {c : Char} (digit : isDigit c = true) (text : List Char) :
    readWord ('-' :: c :: text) = none := by
  have apart : ¬ 'I' = c := (apart_of_isDigit digit rfl).symm
  simp [readWord, words, apart]

/-- A digit begins a number. -/
theorem readValue_digit {c : Char} (digit : isDigit c = true) (room fuel : Nat)
    (text : List Char) : readValue room (fuel + 1) (c :: text) = readNumber (c :: text) := by
  rw [readValue, readWord_digit digit]
  all_goals exact fun _ same => apart_of_isDigit digit (by decide) (List.cons.inj same).1

/-- So does a sign before a digit. -/
theorem readValue_minus {c : Char} (digit : isDigit c = true) (room fuel : Nat)
    (text : List Char) :
    readValue room (fuel + 1) ('-' :: c :: text) = readNumber ('-' :: c :: text) := by
  rw [readValue, readWord_minus digit]
  all_goals simp

private theorem readValue_writeInt {n : Int} (short : n.natAbs < 10 ^ maxDigits) {rest : List Char}
    (ends : endsNumber rest = true) (room fuel : Nat) :
    readValue room (fuel + 1) (writeInt n ++ rest) = .ok (.int n, rest) := by
  have read := readNumber_writeInt short ends
  cases n with
  | ofNat n =>
    obtain ⟨c, more, written, digit⟩ := exists_digit n
    rw [writeInt, written, List.cons_append] at read ⊢
    rw [readValue_digit digit, read]
  | negSucc n =>
    obtain ⟨c, more, written, digit⟩ := exists_digit (n + 1)
    rw [writeInt, written, List.cons_append, List.cons_append] at read ⊢
    rw [readValue_minus digit, read]

private theorem beginsValue_digit {c : Char} (digit : isDigit c = true) (text : List Char) :
    beginsValue (c :: text) = true := by
  have apart (other : Char) (stands : isDigit other = false) : c ≠ other :=
    apart_of_isDigit digit stands
  simp [beginsValue, isSpace, apart ' ' rfl, apart '\t' rfl, apart '\n' rfl, apart '\r' rfl,
    apart ']' rfl, apart (Char.ofNat 0xFEFF) rfl]

/-- A whole number that is short enough is read as it was written. -/
theorem reads_int {n : Int} (short : n.natAbs < 10 ^ maxDigits) :
    Reads (writeInt n) (.int n) := by
  refine Reads.of_succ ?_ fun room fuel rest ends => readValue_writeInt short ends _ fuel
  cases n with
  | ofNat n =>
    obtain ⟨c, more, written, digit⟩ := exists_digit n
    rw [writeInt, written]
    exact beginsValue_digit digit more
  | negSucc n => rfl

private theorem beginsValue_append (begins : beginsValue text = true) (rest : List Char) :
    beginsValue (text ++ rest) = true := by
  cases text with
  | nil => cases begins
  | cons c text => exact begins

/-! ## Arrays -/

theorem reads_noItems : Reads "[]".toList (.array []) :=
  Reads.of_succ rfl fun _ _ _ _ => rfl

/-- Items that are read make an array that is read. -/
theorem ReadsItems.array (inside : ReadsItems text items) (blank : Gap gap) :
    Reads ('[' :: (gap ++ text)) (.array items) where
  begins := rfl
  read room fuel rest roomy enough _ := by
    simp only [List.length_append, List.length_cons] at roomy enough
    obtain ⟨room, rfl⟩ := Nat.exists_eq_add_one_of_ne_zero (show room ≠ 0 by omega)
    obtain ⟨fuel, rfl⟩ := Nat.exists_eq_add_one_of_ne_zero (show fuel ≠ 0 by omega)
    have read := inside.read room fuel rest (by omega) (by omega)
    have begins := inside.begins
    rw [List.cons_append, List.append_assoc, readValue]
    simp only [skipSpace_begins blank begins]
    cases text with
    | nil => cases begins
    | cons c text =>
      -- the first item does not begin with the bracket that ends an array
      split
      · rename_i same
        rw [List.cons_append, List.cons.injEq] at same
        rw [same.1] at begins
        cases begins
      · rw [read]
        rfl

private theorem readItems_last (read : readValue room fuel text = .ok (item, rest))
    (ends : skipSpace rest = ']' :: after) :
    readItems room (fuel + 1) text = .ok ([item], after) := by
  rw [readItems, read]
  simp only [bind, Except.bind]
  rw [ends]
  rfl

private theorem readItems_more (read : readValue room fuel text = .ok (item, rest))
    (comma : skipSpace rest = ',' :: others)
    (later : readItems room fuel (skipSpace others) = .ok (items, after)) :
    readItems room (fuel + 1) text = .ok (item :: items, after) := by
  rw [readItems, read]
  simp only [bind, Except.bind]
  rw [comma]
  simp only [later]
  rfl

/-- A list of items may end with any of them. -/
theorem Reads.last (one : Reads text item) (blank : Gap gap) :
    ReadsItems (text ++ (gap ++ [']'])) [item] where
  begins := beginsValue_append one.begins _
  read room fuel rest roomy enough := by
    simp only [List.length_append, List.length_singleton] at roomy enough
    obtain ⟨fuel, rfl⟩ := Nat.exists_eq_add_one_of_ne_zero (show fuel ≠ 0 by omega)
    rw [List.append_assoc, List.append_assoc, List.singleton_append]
    exact readItems_last
      (one.read room fuel _ (by omega) (by omega) (endsNumber_gap blank rfl rest))
      (skipSpace_gap blank rfl rest)

/-- An item, a comma and what is read as items make one item more. -/
theorem Reads.more (one : Reads text item) (later : ReadsItems others items) (blank : Gap gap) :
    ReadsItems (text ++ ',' :: (gap ++ others)) (item :: items) where
  begins := beginsValue_append one.begins _
  read room fuel rest roomy enough := by
    simp only [List.length_append, List.length_cons] at roomy enough
    obtain ⟨fuel, rfl⟩ := Nat.exists_eq_add_one_of_ne_zero (show fuel ≠ 0 by omega)
    rw [List.append_assoc, List.cons_append, List.append_assoc]
    refine readItems_more (one.read room fuel _ (by omega) (by omega) rfl) rfl ?_
    rw [skipSpace_begins blank later.begins]
    exact later.read room fuel rest (by omega) (by omega)

/-! ## Objects -/

theorem reads_noMembers : Reads ['\x7b', '\x7d'] (.object []) :=
  Reads.of_succ rfl fun _ _ _ _ => rfl

/-- Members that are read, with distinct names, make an object that is read. -/
theorem ReadsMembers.object (inside : ReadsMembers text members) (blank : Gap gap)
    (distinct : (members.map Prod.fst).Nodup) :
    Reads ('\x7b' :: (gap ++ text)) (.object members) where
  begins := rfl
  read room fuel rest roomy enough _ := by
    simp only [List.length_append, List.length_cons] at roomy enough
    obtain ⟨room, rfl⟩ := Nat.exists_eq_add_one_of_ne_zero (show room ≠ 0 by omega)
    obtain ⟨fuel, rfl⟩ := Nat.exists_eq_add_one_of_ne_zero (show fuel ≠ 0 by omega)
    have read := inside.read room fuel [] rest (by omega) (by omega) distinct
    have begins := inside.begins
    cases text with
    | nil => cases begins
    | cons c text =>
      cases begins
      rw [List.cons_append, List.append_assoc, readValue]
      simp only [List.cons_append, skipSpace_gap blank (show isSpace '"' = false from rfl)]
      rw [List.cons_append, List.map_nil] at read
      change Except.map _ (readMembers room fuel [] ('"' :: (text ++ rest))) = _
      rw [read, List.nil_append, Except.map, ofMembers_spelled]

private theorem readMembers_last (named : readQuoted text = .ok (glyphs, ':' :: rest))
    (read : readValue room fuel (skipSpace rest) = .ok (json, others))
    (ends : skipSpace others = '\x7d' :: after) :
    readMembers room (fuel + 1) known text =
      .ok (FieldMap.setEntry glyphs json known, after) := by
  rw [readMembers, named]
  simp only [bind, Except.bind]
  change (readValue room fuel (skipSpace rest)).bind _ = _
  rw [read]
  simp only [Except.bind]
  rw [ends]
  rfl

private theorem readMembers_more (named : readQuoted text = .ok (glyphs, ':' :: rest))
    (read : readValue room fuel (skipSpace rest) = .ok (json, ',' :: others)) :
    readMembers room (fuel + 1) known text =
      readMembers room fuel (FieldMap.setEntry glyphs json known) (skipSpace others) := by
  rw [readMembers, named]
  simp only [bind, Except.bind]
  change (readValue room fuel (skipSpace rest)).bind _ = _
  rw [read]
  rfl

/-- A name that was not seen before goes last. -/
theorem setEntry_fresh (distinct : ((seen ++ (name, json) :: members).map Prod.fst).Nodup) :
    FieldMap.setEntry (name.toList.map Glyph.char) json (seen.map spelled) =
      (seen ++ [(name, json)]).map spelled := by
  rw [List.map_append, List.map_singleton, spelled]
  refine FieldMap.setEntry_of_not_mem json fun member => ?_
  obtain ⟨_, known, same⟩ := List.mem_map.mp member
  obtain ⟨other, among, rfl⟩ := List.mem_map.mp known
  have seenBefore : name ∈ seen.map Prod.fst :=
    chars_injective same ▸ List.mem_map_of_mem among
  rw [List.map_append, List.map_cons] at distinct
  exact (List.nodup_append.mp distinct).2.2 name seenBefore name List.mem_cons_self rfl

/-- The members of an object may end with any of them. -/
theorem Reads.lastMember (one : Reads text json) (name : String) (blank : Gap gap)
    (blank' : Gap gap') :
    ReadsMembers (writeString name ++ ':' :: (gap ++ (text ++ (gap' ++ ['\x7d']))))
      [(name, json)] where
  begins := rfl
  read room fuel seen rest roomy enough distinct := by
    simp only [List.length_append, List.length_cons] at roomy enough
    obtain ⟨fuel, rfl⟩ := Nat.exists_eq_add_one_of_ne_zero (show fuel ≠ 0 by omega)
    simp only [List.append_assoc, List.cons_append, List.nil_append]
    rw [← setEntry_fresh distinct]
    refine readMembers_last (readQuoted_writeString name _) ?_ (skipSpace_gap blank' rfl rest)
    rw [skipSpace_begins blank one.begins]
    exact one.read room fuel _ (by omega) (by omega) (endsNumber_gap blank' rfl rest)

/-- A member, a comma and what is read as members make one member more. -/
theorem Reads.moreMember (one : Reads text json) (name : String)
    (later : ReadsMembers others members) (blank : Gap gap) (blank' : Gap gap') :
    ReadsMembers (writeString name ++ ':' :: (gap ++ (text ++ ',' :: (gap' ++ others))))
      ((name, json) :: members) where
  begins := rfl
  read room fuel seen rest roomy enough distinct := by
    simp only [List.length_append, List.length_cons] at roomy enough
    obtain ⟨fuel, rfl⟩ := Nat.exists_eq_add_one_of_ne_zero (show fuel ≠ 0 by omega)
    simp only [List.append_assoc, List.cons_append]
    have read :
        readValue room fuel (skipSpace (gap ++ (text ++ ',' :: (gap' ++ (others ++ rest))))) =
        .ok (json, ',' :: (gap' ++ (others ++ rest))) := by
      rw [skipSpace_begins blank one.begins]
      exact one.read room fuel _ (by omega) (by omega) rfl
    have begins : skipSpace (gap' ++ (others ++ rest)) = others ++ rest := by
      have quoted := later.begins
      cases others with
      | nil => cases quoted
      | cons c others =>
        cases quoted
        exact skipSpace_gap blank' rfl _
    rw [readMembers_more (readQuoted_writeString name _) read, begins, setEntry_fresh distinct,
      later.read room fuel _ rest (by omega) (by omega) (by simpa using distinct),
      List.append_assoc, List.singleton_append]

end

/-! ## What is written -/

/-- Values without floats and with distinct names in objects. -/
inductive Tidy : Json → Prop where
  | null : Tidy .null
  | bool (value : Bool) : Tidy (.bool value)
  | int (n : Int) : Tidy (.int n)
  | string (s : String) : Tidy (.string s)
  | array {items : List Json} (each : ∀ item ∈ items, Tidy item) : Tidy (.array items)
  | object {members : List (String × Json)} (distinct : (members.map Prod.fst).Nodup)
    (each : ∀ member ∈ members, Tidy member.2) : Tidy (.object members)

/-- Values without a whole number of more digits than are read. -/
inductive Brief : Json → Prop where
  | null : Brief .null
  | bool (value : Bool) : Brief (.bool value)
  | int {n : Int} (short : n.natAbs < 10 ^ maxDigits) : Brief (.int n)
  | float (x : Float) : Brief (.float x)
  | string (s : String) : Brief (.string s)
  | torn (glyphs : List Glyph) : Brief (.torn glyphs)
  | array {items : List Json} (each : ∀ item ∈ items, Brief item) : Brief (.array items)
  | object {members : List (String × Json)} (each : ∀ member ∈ members, Brief member.2) :
    Brief (.object members)
  | tornObject {members : List (List Glyph × Json)} (each : ∀ member ∈ members, Brief member.2) :
    Brief (.tornObject members)

theorem brief_int_iff {n : Int} : Brief (.int n) ↔ n.natAbs < 10 ^ maxDigits :=
  ⟨fun | .int short => short, .int⟩

theorem brief_array_iff {items : List Json} :
    Brief (.array items) ↔ ∀ item ∈ items, Brief item :=
  ⟨fun | .array each => each, .array⟩

theorem brief_object_iff {members : List (String × Json)} :
    Brief (.object members) ↔ ∀ member ∈ members, Brief member.2 :=
  ⟨fun | .object each => each, .object⟩

private theorem reads_writeItems {items : List Json} (some : items ≠ [])
    (each : ∀ item ∈ items, Reads (write item) item) : ReadsItems (writeItems items) items := by
  induction items with
  | nil => exact absurd rfl some
  | cons item rest ih =>
    have one := each item List.mem_cons_self
    cases rest with
    | nil => exact one.last gap_nil
    | cons next rest =>
      have later := ih nofun fun other member => each other (List.mem_cons_of_mem _ member)
      exact one.more later gap_nil

private theorem reads_writeMembers {members : List (String × Json)} (some : members ≠ [])
    (each : ∀ member ∈ members, Reads (write member.2) member.2) :
    ReadsMembers (writeMembers members) members := by
  induction members with
  | nil => exact absurd rfl some
  | cons member rest ih =>
    obtain ⟨name, value⟩ := member
    have one := each (name, value) List.mem_cons_self
    cases rest with
    | nil =>
      have read := one.lastMember name gap_nil gap_nil
      simpa [writeMembers] using read
    | cons next rest =>
      have later := ih nofun fun other member => each other (List.mem_cons_of_mem _ member)
      have read := one.moreMember name later gap_nil gap_nil
      simpa [writeMembers] using read

/-- A tidy value is read back from its compact form if its whole numbers are short enough. -/
theorem reads_write {json : Json} (tidy : Tidy json) (brief : Brief json) :
    Reads (write json) json := by
  -- on the parts of the value; what is brief goes down to them case by case
  induction tidy with
  | null => exact reads_null
  | bool value => exact reads_bool value
  | int n =>
    exact reads_int (brief_int_iff.mp brief)
  | string s => exact reads_string s
  | @array items each ih =>
    have briefs := brief_array_iff.mp brief
    cases items with
    | nil => exact reads_noItems
    | cons item rest =>
      have inside := reads_writeItems (List.cons_ne_nil item rest) fun other member =>
        ih other member (briefs other member)
      exact inside.array gap_nil
  | @object members distinct each ih =>
    have briefs := brief_object_iff.mp brief
    cases members with
    | nil => exact reads_noMembers
    | cons member rest =>
      have inside := reads_writeMembers (List.cons_ne_nil member rest) fun other found =>
        ih other found (briefs other found)
      exact inside.object gap_nil distinct

/-- A text that is read as a value wherever the value may end is JSON by itself, if there is room
for as many calls as it has characters. -/
theorem Reads.within {text : List Char} {json : Json} (reads : Reads text json) {room : Nat}
    (fits : text.length ≤ room) : readWithin room text = .ok json := by
  have marked : (text.head? == some (Char.ofNat 0xFEFF)) = false := by
    have begins := reads.begins
    cases text with
    | nil => cases begins
    | cons c text => simp_all [beginsValue]
  have solid : skipSpace text = text := by
    simpa using skipSpace_begins gap_nil reads.begins []
  have value := reads.read room (2 * text.length + 1) [] fits (by omega) rfl
  rw [List.append_nil] at value
  simp [readWithin, marked, solid, value]
  rfl

/-- A text that reads as a value is read as it when it stands alone. -/
theorem Reads.whole {text : List Char} {json : Json} (reads : Reads text json) :
    Json.read text = .ok json :=
  reads.within (Nat.le_add_right _ _)

/-! ## What can be read -/

/-- Digits are below the power of ten of their number. -/
theorem digitsValue_lt {digits : List Char} (all : ∀ c ∈ digits, isDigit c = true) :
    digitsValue digits < 10 ^ digits.length := by
  induction digits using List.reverseRecOn with
  | nil => decide
  | append_singleton digits last ih =>
    have before := ih fun c member => all c (List.mem_append_left _ member)
    have digit : last.toNat ≤ 57 := by
      have bounds := all last (by simp)
      simp only [isDigit, Bool.and_eq_true, decide_eq_true_eq] at bounds
      exact bounds.2
    rw [digitsValue] at before ⊢
    rw [List.foldl_append, List.foldl_cons, List.foldl_nil, List.length_append,
      List.length_singleton, Nat.pow_succ]
    omega

theorem digits_of_readWhole? {s whole rest : List Char} (read : readWhole? s = some (whole, rest)) :
    ∀ c ∈ whole, isDigit c = true := by
  unfold readWhole? at read
  split at read
  · cases read
    exact List.forall_mem_singleton.mpr rfl
  · split at read
    · rw [List.span_eq_takeWhile_dropWhile] at read
      cases read
      exact fun c member => List.mem_takeWhile_imp member
    · cases read
  · cases read

private theorem brief_of_readNumber {s rest : List Char} {json : Json}
    (read : readNumber s = .ok (json, rest)) : Brief json := by
  unfold readNumber at read
  split at read
  rename_i negative body signed
  split at read
  · cases read
  · rename_i whole after found
    simp only at read
    split at read
    · split at read
      · cases read
      · rename_i fits
        cases read
        have short : digitsValue whole < 10 ^ maxDigits :=
          Nat.lt_of_lt_of_le (digitsValue_lt (digits_of_readWhole? found))
            (Nat.pow_le_pow_right (by decide) (Nat.le_of_not_lt fits))
        refine .int ?_
        split
        · rwa [Int.natAbs_neg]
        · exact short
    · cases read
      exact .float _

private theorem brief_of_readWord {s rest : List Char} {json : Json}
    (read : readWord s = some (json, rest)) : Brief json := by
  obtain ⟨entry, found, same⟩ := Option.map_eq_some_iff.mp read
  cases same
  have known := List.mem_of_find?_eq_some found
  simp only [words, List.mem_cons, List.not_mem_nil, or_false] at known
  rcases known with rfl | rfl | rfl | rfl | rfl | rfl
  · exact .null
  · exact .bool true
  · exact .bool false
  · exact .float _
  · exact .float _
  · exact .float _

private theorem brief_ofGlyphs (glyphs : List Glyph) : Brief (ofGlyphs glyphs) := by
  unfold ofGlyphs
  split
  · exact .string _
  · exact .torn _

private theorem brief_ofMembers {members : List (List Glyph × Json)}
    (each : ∀ member ∈ members, Brief member.2) : Brief (ofMembers members) := by
  unfold ofMembers
  split
  · rename_i named spells
    refine .object fun member found => ?_
    obtain ⟨origin, among, same⟩ := exists_of_mem_mapM_some spells found
    obtain ⟨_, -, rfl⟩ := Option.map_eq_some_iff.mp same
    exact each origin among
  · exact .tornObject each

private theorem brief_setEntry {members : List (List Glyph × Json)} {json : Json}
    (name : List Glyph)
    (each : ∀ member ∈ members, Brief member.2) (brief : Brief json) :
    ∀ member ∈ FieldMap.setEntry name json members, Brief member.2 := by
  intro member found
  rcases FieldMap.mem_setEntry found with earlier | rfl
  · exact each member earlier
  · exact brief

/-- What is read with some fuel has short whole numbers, whichever kind of text it is read from. -/
structure ReadsBrief (fuel : Nat) : Prop where
  value : ∀ room s json rest, readValue room fuel s = .ok (json, rest) → Brief json
  items : ∀ room s items rest, readItems room fuel s = .ok (items, rest) →
    ∀ item ∈ items, Brief item
  members : ∀ room s seen members rest, (∀ member ∈ seen, Brief member.2) →
    readMembers room fuel seen s = .ok (members, rest) → ∀ member ∈ members, Brief member.2

section

variable {fuel room : Nat} {s rest : List Char} (less : ReadsBrief fuel)

include less

private theorem brief_of_readValue {json : Json}
    (read : readValue room (fuel + 1) s = .ok (json, rest)) : Brief json := by
  unfold readValue at read
  split at read
  · obtain ⟨⟨glyphs, after⟩, -, same⟩ := exists_of_map_eq_ok read
    cases same
    exact brief_ofGlyphs glyphs
  · split at read
    · cases read
    · split at read
      · cases read
        exact .array (List.forall_mem_nil _)
      · obtain ⟨⟨items, after⟩, found, same⟩ := exists_of_map_eq_ok read
        cases same
        exact .array (less.items _ _ _ _ found)
  · split at read
    · cases read
    · split at read
      · cases read
        exact .object (List.forall_mem_nil _)
      · obtain ⟨⟨members, after⟩, found, same⟩ := exists_of_map_eq_ok read
        cases same
        exact brief_ofMembers (less.members _ _ [] _ _ (List.forall_mem_nil _) found)
  · split at read
    · rename_i found
      split at read
      · cases read
      · cases read
        exact brief_of_readWord found
    · exact brief_of_readNumber read

private theorem brief_of_readItems {items : List Json}
    (read : readItems room (fuel + 1) s = .ok (items, rest)) : ∀ item ∈ items, Brief item := by
  rw [readItems] at read
  obtain ⟨⟨item, after⟩, one, read⟩ := exists_of_bind_eq_ok read
  have brief := less.value _ _ _ _ one
  dsimp only at read
  split at read
  · cases read
    exact List.forall_mem_singleton.mpr brief
  · obtain ⟨⟨others, last⟩, later, same⟩ := exists_of_bind_eq_ok read
    cases same
    exact List.forall_mem_cons.mpr ⟨brief, less.items _ _ _ _ later⟩
  · cases read

private theorem brief_of_readMembers {seen members : List (List Glyph × Json)}
    (known : ∀ member ∈ seen, Brief member.2)
    (read : readMembers room (fuel + 1) seen s = .ok (members, rest)) :
    ∀ member ∈ members, Brief member.2 := by
  rw [readMembers] at read
  obtain ⟨⟨name, after⟩, -, read⟩ := exists_of_bind_eq_ok read
  dsimp only at read
  split at read
  · obtain ⟨⟨value, last⟩, one, read⟩ := exists_of_bind_eq_ok read
    have briefs := brief_setEntry name known (less.value _ _ _ _ one)
    dsimp only at read
    split at read
    · cases read
      exact briefs
    · exact less.members _ _ _ _ _ briefs read
    · cases read
  · cases read

end

/-- With so much fuel, every reader gives values without overlong numbers. -/
private theorem readsBrief (fuel : Nat) : ReadsBrief fuel := by
  -- the three readers call each other with one less fuel only, so they are followed together
  induction fuel with
  | zero =>
    refine ⟨fun _ _ _ _ read => ?_, fun _ _ _ _ read => ?_, fun _ _ _ _ _ _ read => ?_⟩
    all_goals cases read
  | succ fuel ih =>
    exact ⟨fun _ _ _ _ => brief_of_readValue ih, fun _ _ _ _ => brief_of_readItems ih,
      fun _ _ _ _ _ => brief_of_readMembers ih⟩

/-- JSON that is read from a text has short whole numbers. -/
theorem brief_of_readWithin {room : Nat} {text : List Char} {json : Json}
    (read : readWithin room text = .ok json) : Brief json := by
  rw [readWithin] at read
  dsimp only at read
  split at read
  · cases read
  · obtain ⟨⟨value, rest⟩, found, read⟩ := exists_of_bind_eq_ok (eq_ok_of_mapError read)
    dsimp only at read
    split at read
    · cases read
      exact (readsBrief _).value _ _ _ _ found
    · cases read

/-- Reading the compact text of a tidy value gives the value back, unless it has a whole number of
more digits than are read. -/
theorem parse_compact_iff {json : Json} (tidy : Tidy json) :
    parse json.compact = .ok json ↔ Brief json := by
  refine ⟨brief_of_readWithin, fun brief => ?_⟩
  rw [parse, compact, String.toList_ofList]
  exact (reads_write tidy brief).whole

end PageHarvest.Json
