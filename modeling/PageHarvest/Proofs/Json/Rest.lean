import PageHarvest.Proofs.Json.RoundTrip

/-! # What reading leaves of a text

Reading goes on where it has stopped, so all that it looks at is an end of the text. A text that is
refused because a whole number is too long therefore has that number in it, and one for which there
was no room has nearly as many brackets as there was room for calls.
-/

namespace PageHarvest.Json

variable {α β : Type}

/-- So many digits in a row stand in a text, and they are more than are read. -/
def LongRun (count : Nat) (text : List Char) : Prop :=
  maxDigits < count ∧
    ∃ digits, digits <:+: text ∧ digits.length = count ∧ ∀ c ∈ digits, isDigit c = true

private theorem LongRun.of_suffix {count : Nat} {rest text : List Char} (run : LongRun count rest)
    (suffix : rest <:+ text) : LongRun count text := by
  obtain ⟨long, digits, inside, length, all⟩ := run
  exact ⟨long, digits, inside.trans suffix.isInfix, length, all⟩

/-- How many brackets of arrays and objects open in a text. -/
def openings (text : List Char) : Nat := text.countP fun c => c == '[' || c == '\x7b'

/-- A text has so many brackets that reading it may have no room left for the report of a fault. -/
def Crowded (room : Nat) (text : List Char) : Prop := room < openings text + reportCalls

private theorem Crowded.of_suffix {room : Nat} {rest text : List Char} (crowded : Crowded room rest)
    (suffix : rest <:+ text) : Crowded room text :=
  Nat.lt_of_lt_of_le crowded (Nat.add_le_add_right (suffix.sublist.countP_le) reportCalls)

/-- Work on a text that leaves an end of it, refuses no digits but a long run in it, and has room
unless there are too many brackets. -/
def StaysIn (room : Nat) (text : List Char) : Except Stop (α × List Char) → Prop
  | .ok (_, rest) => rest <:+ text
  | .error (.tooManyDigits count) => LongRun count text
  | .error (.tooDeep _) => Crowded room text
  | .error (.fault _ _) => True

namespace StaysIn

variable {room : Nat} {text rest : List Char} {work : Except Stop (α × List Char)} {value : α}

private theorem of_suffix (stays : StaysIn room rest work) (suffix : rest <:+ text) :
    StaysIn room text work := by
  match work with
  | .ok (_, _) => exact List.IsSuffix.trans stays suffix
  | .error (.tooManyDigits _) => exact LongRun.of_suffix stays suffix
  | .error (.tooDeep _) => exact Crowded.of_suffix stays suffix
  | .error (.fault _ _) => exact trivial

private theorem done (value : α) (rest : List Char) : StaysIn room rest (.ok (value, rest)) :=
  List.suffix_refl rest

private theorem stop (kind : ReadFault) : StaysIn (α := α) room text (stop kind rest) := trivial

/-- A bracket makes one more opening, so there may be one call more of room. -/
theorem opened (stays : StaysIn room rest work) {bracket : Char}
    (opens : openings [bracket] = 1) : StaysIn (room + 1) (bracket :: rest) work := by
  match work with
  | .ok (_, _) => exact List.IsSuffix.trans stays (List.suffix_cons bracket rest)
  | .error (.tooManyDigits _) => exact LongRun.of_suffix stays (List.suffix_cons bracket rest)
  | .error (.tooDeep _) =>
    have crowded : room < openings rest + reportCalls := stays
    have more : openings (bracket :: rest) = openings [bracket] + openings rest := by
      rw [openings, openings, openings, ← List.countP_append, List.singleton_append]
    change room + 1 < openings (bracket :: rest) + reportCalls
    omega
  | .error (.fault _ _) => exact trivial

/-- The report of a fault needs little room. -/
theorem within (stays : StaysIn room text work) :
    StaysIn room text (work.mapError (·.within room)) := by
  match work with
  | .ok (_, _) => exact stays
  | .error (.tooManyDigits _) => exact stays
  | .error (.tooDeep _) => exact stays
  | .error (.fault kind left) =>
    change StaysIn room text (.error (if _ then _ else _))
    split
    · rename_i crowded
      simp only [Bool.and_eq_true, decide_eq_true_eq] at crowded
      exact Nat.lt_of_lt_of_le crowded.2 (Nat.le_add_left _ _)
    · exact trivial

/-- Work that goes on with what other work has left. -/
theorem bind (stays : StaysIn room text work) {next : α × List Char → Except Stop (β × List Char)}
    (later : ∀ value rest, rest <:+ text → StaysIn room rest (next (value, rest))) :
    StaysIn room text (work >>= next) := by
  match work with
  | .ok (value, rest) => exact (later value rest stays).of_suffix stays
  | .error (.tooManyDigits _) => exact stays
  | .error (.tooDeep _) => exact stays
  | .error (.fault _ _) => exact trivial

private theorem map (stays : StaysIn room text work) (f : α → β) :
    StaysIn room text (work.map fun (value, rest) => (f value, rest)) := by
  match work with
  | .ok (_, _) => exact stays
  | .error (.tooManyDigits _) => exact stays
  | .error (.tooDeep _) => exact stays
  | .error (.fault _ _) => exact trivial

end StaysIn

variable {room : Nat} {text rest : List Char}

private theorem skipSpace_suffix (text : List Char) : skipSpace text <:+ text :=
  List.dropWhile_suffix isSpace

/-! ## Strings -/

private theorem readHex4_suffix {n : Nat} (read : readHex4 text = some (n, rest)) :
    rest <:+ text := by
  unfold readHex4 at read
  split at read
  · simp only [bind, Option.bind_eq_some_iff] at read
    obtain ⟨_, -, _, -, _, -, _, -, same⟩ := read
    cases same
    exact ⟨[_, _, _, _], rfl⟩
  · cases read

private theorem readUnicodeEscape_staysIn (text : List Char) :
    StaysIn room text (readUnicodeEscape text) := by
  unfold readUnicodeEscape
  split
  · exact .stop _
  · rename_i high rest found
    have suffix := (readHex4_suffix found).trans (List.drop_suffix 1 text)
    split
    · split
      · rename_i more
        have behind : more <:+ text := List.IsSuffix.trans ⟨['\\', 'u'], rfl⟩ suffix
        split
        · exact suffix
        · split
          · exact .stop _
          · rename_i low after later
            split
            · exact (readHex4_suffix later).trans behind
            · exact suffix
      · exact suffix
    · split
      · exact suffix
      · exact suffix

private theorem readString_staysIn (opened fuel : Nat) (text : List Char) :
    StaysIn room text (readString opened fuel text) := by
  fun_induction readString opened fuel text with
  | case1 => exact trivial
  | case2 => exact trivial
  | case3 fuel rest => exact List.suffix_cons '"' rest
  | case4 => exact trivial
  | case5 fuel rest ih =>
    have escape : StaysIn room _ (readUnicodeEscape ('u' :: rest)) :=
      (readUnicodeEscape_staysIn ('u' :: rest)).of_suffix (List.suffix_cons '\\' _)
    exact escape.bind fun c rest _ => (ih rest).bind fun more rest _ => .done _ rest
  | case6 => exact .stop _
  | case7 fuel c rest _ _ _ ih =>
    have behind : rest <:+ '\\' :: c :: rest := ⟨['\\', c], rfl⟩
    exact (ih.of_suffix behind).bind fun more rest _ => .done _ rest
  | case8 => exact .stop _
  | case9 fuel c rest _ _ _ _ _ ih =>
    exact (ih.of_suffix (List.suffix_cons c rest)).bind fun more rest _ => .done _ rest

private theorem readQuoted_staysIn (text : List Char) : StaysIn room text (readQuoted text) := by
  unfold readQuoted
  split
  · rename_i rest
    exact (readString_staysIn _ _ rest).of_suffix (List.suffix_cons '"' rest)
  · exact .stop _

/-! ## Numbers -/

private theorem span_isDigit {s digits rest : List Char} (found : s.span isDigit = (digits, rest)) :
    digits ++ rest = s := by
  rw [List.span_eq_takeWhile_dropWhile] at found
  cases found
  exact List.takeWhile_append_dropWhile

private theorem append_of_readWhole? {whole : List Char}
    (read : readWhole? text = some (whole, rest)) :
    whole ++ rest = text := by
  unfold readWhole? at read
  split at read
  · cases read
    rfl
  · split at read
    · exact span_isDigit (Option.some.inj read)
    · cases read
  · cases read

private theorem readFraction_suffix {places : List Char}
    (read : readFraction text = some (places, rest)) :
    rest <:+ text := by
  unfold readFraction at read
  split at read
  · split at read
    · exact ⟨'.' :: places, congrArg ('.' :: ·) (span_isDigit (Option.some.inj read))⟩
    · cases read
  · cases read

private theorem readExponent_suffix {power : Int} (read : readExponent text = some (power, rest)) :
    rest <:+ text := by
  unfold readExponent at read
  split at read
  · rename_i e after
    split at read
    · split at read
      rename_i sign unsigned signed
      split at read
      rename_i digits last found
      split at read
      · cases read
      · cases read
        have behind : unsigned <:+ after := by
          split at signed
          · cases signed
            exact List.suffix_cons '-' _
          · cases signed
            exact List.suffix_cons '+' _
          · cases signed
            exact List.suffix_refl _
        have ends : rest <:+ unsigned := ⟨digits, span_isDigit found⟩
        exact (ends.trans behind).trans (List.suffix_cons e after)
    · cases read
  · cases read

private theorem readNumber_staysIn (text : List Char) : StaysIn room text (readNumber text) := by
  unfold readNumber
  split
  rename_i negative body signed
  have behind : body <:+ text := by
    split at signed
    · cases signed
      exact List.suffix_cons '-' _
    · cases signed
      exact List.suffix_refl _
  split
  · exact .stop _
  · rename_i whole rest found
    have parts := append_of_readWhole? found
    have afterWhole : rest <:+ text := List.IsSuffix.trans ⟨whole, parts⟩ behind
    dsimp only
    split
    · split
      · rename_i long
        have inside : whole <:+: text :=
          List.IsInfix.trans ⟨[], rest, parts⟩ behind.isInfix
        exact ⟨long, whole, inside, rfl, digits_of_readWhole? found⟩
      · exact afterWhole
    · have afterFraction : ((readFraction rest).map Prod.snd).getD rest <:+ text := by
        cases fraction : readFraction rest with
        | none => exact afterWhole
        | some found => exact (readFraction_suffix fraction).trans afterWhole
      cases exponent : readExponent (((readFraction rest).map Prod.snd).getD rest) with
      | none => exact afterFraction
      | some found => exact (readExponent_suffix exponent).trans afterFraction

/-! ## Values -/

private theorem readWord_suffix {json : Json} (read : readWord text = some (json, rest)) :
    rest <:+ text := by
  obtain ⟨entry, -, same⟩ := Option.map_eq_some_iff.mp read
  cases same
  exact List.drop_suffix _ text

/-- Reading with some fuel stays in the text, whatever is read. -/
structure ReadsStay (fuel : Nat) : Prop where
  value : ∀ room text, StaysIn room text (readValue room fuel text)
  items : ∀ room text, StaysIn room text (readItems room fuel text)
  members : ∀ room text seen, StaysIn room text (readMembers room fuel seen text)

private theorem behind_of_skipSpace {c : Char} {after : List Char}
    (parted : skipSpace rest = c :: after) : after <:+ rest :=
  (List.suffix_cons c after).trans (parted ▸ skipSpace_suffix rest)

private theorem noRoom_staysIn {crowd : Crowd} :
    StaysIn (α := α) 0 text (.error (.tooDeep crowd)) :=
  Nat.lt_of_lt_of_le (by decide : 0 < reportCalls) (Nat.le_add_left _ _)

section

variable {fuel : Nat} (less : ReadsStay fuel)

include less

private theorem readValue_staysIn (room : Nat) (text : List Char) :
    StaysIn room text (readValue room (fuel + 1) text) := by
  unfold readValue
  split
  · exact (readQuoted_staysIn _).within.map ofGlyphs
  · rename_i rest
    split
    · exact noRoom_staysIn
    · refine StaysIn.opened ?_ rfl
      split
      · rename_i after closed
        exact behind_of_skipSpace closed
      · exact ((less.items _ _).of_suffix (skipSpace_suffix rest)).map Json.array
  · rename_i rest
    split
    · exact noRoom_staysIn
    · refine StaysIn.opened ?_ rfl
      split
      · rename_i after closed
        exact behind_of_skipSpace closed
      · exact ((less.members _ _ []).of_suffix (skipSpace_suffix rest)).map ofMembers
  · split
    · rename_i found
      split
      · rename_i crowded
        simp only [Bool.and_eq_true, decide_eq_true_eq] at crowded
        exact crowded.2 ▸ noRoom_staysIn
      · exact readWord_suffix found
    · exact readNumber_staysIn _

private theorem readItems_staysIn (room : Nat) (text : List Char) :
    StaysIn room text (readItems room (fuel + 1) text) := by
  rw [readItems]
  refine (less.value room text).bind fun item rest _ => ?_
  dsimp only
  split
  · rename_i after closed
    exact behind_of_skipSpace closed
  · rename_i more parted
    have next := (skipSpace_suffix more).trans (behind_of_skipSpace parted)
    exact ((less.items room _).of_suffix next).bind fun items rest _ => .done _ rest
  · exact (StaysIn.stop _).within

private theorem readMembers_staysIn (room : Nat) (text : List Char)
    (seen : List (List Glyph × Json)) :
    StaysIn room text (readMembers room (fuel + 1) seen text) := by
  rw [readMembers]
  refine (readQuoted_staysIn text).within.bind fun name rest _ => ?_
  dsimp only
  split
  · rename_i after named
    have next := (skipSpace_suffix after).trans (behind_of_skipSpace named)
    refine ((less.value room _).of_suffix next).bind fun value rest _ => ?_
    dsimp only
    split
    · rename_i after closed
      exact behind_of_skipSpace closed
    · rename_i more parted
      have next := (skipSpace_suffix more).trans (behind_of_skipSpace parted)
      exact (less.members room _ _).of_suffix next
    · exact (StaysIn.stop _).within
  · exact (StaysIn.stop _).within

end

/-- With so much fuel, every reader leaves an end of its text and stops within it. -/
private theorem readsStay (fuel : Nat) : ReadsStay fuel := by
  -- the three readers call each other with one less fuel only, so they are followed together
  induction fuel with
  | zero => exact ⟨fun _ _ => .stop _, fun _ _ => .stop _, fun _ _ _ => .stop _⟩
  | succ fuel ih => exact ⟨readValue_staysIn ih, readItems_staysIn ih, readMembers_staysIn ih⟩

/-- Only a text with a long run of digits is refused for one, and only one with many brackets for
want of room. -/
theorem readWithin_staysIn (room : Nat) (text : List Char) :
    (∀ count, readWithin room text = .error (.tooManyDigits count) → LongRun count text) ∧
      ∀ crowd, readWithin room text = .error (.tooDeep crowd) → Crowded room text := by
  have stays := ((readsStay (2 * text.length + 1)).value room (skipSpace text)).of_suffix
    (skipSpace_suffix text)
  rw [readWithin]
  dsimp only
  split
  · exact ⟨fun _ refused => (by cases refused), fun _ refused => (by cases refused)⟩
  · cases found : readValue room (2 * text.length + 1) (skipSpace text) with
    | error reason =>
      rw [found] at stays
      cases reason with
      | fault kind left =>
        exact ⟨fun _ refused => (by cases refused), fun _ refused => (by cases refused)⟩
      | tooManyDigits count =>
        refine ⟨fun _ refused => ?_, fun _ refused => (by cases refused)⟩
        cases refused
        exact stays
      | tooDeep crowd => exact ⟨fun _ refused => (by cases refused), fun _ _ => stays⟩
    | ok done =>
      obtain ⟨value, rest⟩ := done
      simp only [bind, Except.bind, pure, Except.pure]
      split
      · exact ⟨fun _ refused => (by cases refused), fun _ refused => (by cases refused)⟩
      · exact ⟨fun _ refused => (by cases refused), fun _ refused => (by cases refused)⟩

/-- One bracket more than there is room for is refused, whatever follows. -/
theorem readWithin_brackets (room : Nat) (rest : List Char) :
    readWithin room (List.replicate (room + 1) '[' ++ rest) = .error (.tooDeep .array) := by
  have value (fuel : Nat) (room : Nat) (enough : 2 * room < fuel) :
      readValue room fuel (List.replicate (room + 1) '[' ++ rest) =
        .error (.tooDeep .array) := by
    induction room generalizing fuel with
    | zero =>
      obtain ⟨fuel, rfl⟩ := Nat.exists_eq_add_one_of_ne_zero (show fuel ≠ 0 by omega)
      rfl
    | succ room ih =>
      -- one call reads the bracket, one more the items behind it
      obtain ⟨fuel, rfl⟩ := Nat.exists_eq_add_of_le (show 2 ≤ fuel by omega)
      have deeper := ih fuel (by omega)
      rw [Nat.add_comm 2, List.replicate_succ, List.cons_append, readValue]
      rw [List.replicate_succ, List.cons_append] at deeper ⊢
      change Except.map _ (readItems room (fuel + 1) ('[' :: _)) = _
      rw [readItems, deeper]
      rfl
  have read := value (2 * (room + 1 + rest.length) + 1) room (by omega)
  rw [readWithin]
  simp only [List.length_append, List.length_replicate]
  rw [List.replicate_succ, List.cons_append] at read ⊢
  change Except.mapError _ (readValue room _ ('[' :: _) >>= _) = _
  rw [read]
  rfl

end PageHarvest.Json
