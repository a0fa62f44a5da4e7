import Mathlib.Algebra.Group.Nat.Defs
import Mathlib.Data.List.Basic
import Mathlib.Data.List.TakeDrop
import PageHarvest.Json.Reader
import PageHarvest.Json.Writer

/-! # Reading tokens back

A text in quotes is read as the characters that were written, each of which stands as a letter
behind a backslash, by its code point or as itself. A whole number is read as itself before a text
that ends it, unless it has more digits than are read.
-/

namespace PageHarvest.Json

/-! ## Texts in quotes -/

private theorem hexValue?_hexDigit : ∀ n < 16, hexValue? (Text.hexDigit n) = some n := by decide

private theorem readHex4_hexDigits {n : Nat} (small : n < 65536) (next : Char) (rest : List Char) :
    readHex4 (Text.hexDigits 4 n ++ next :: rest) = some (n, next :: rest) := by
  have digit (m : Nat) : hexValue? (Text.hexDigit (m % 16)) = some (m % 16) :=
    hexValue?_hexDigit _ (Nat.mod_lt _ (by decide))
  simp only [Text.hexDigits, List.nil_append, List.cons_append, readHex4, digit]
  simp
  omega

/-- An escape by code point is read as its character. -/
theorem readUnicodeEscape_hexDigits {c : Char} (control : c.toNat < 32) (next : Char)
    (rest : List Char) :
    readUnicodeEscape ('u' :: Text.hexDigits 4 c.toNat ++ next :: rest) =
      .ok (.char c, next :: rest) := by
  have high : isHighUnit c.toNat = false := by simp [isHighUnit]; omega
  have low : isLowUnit c.toNat = false := by simp [isLowUnit]; omega
  rw [readUnicodeEscape, List.cons_append, List.drop_one, List.tail_cons,
    readHex4_hexDigits (by omega)]
  simp [high, low]

/-- A character is written as a letter behind a backslash, by its code point, or as itself. -/
theorem escapeChar_cases (c : Char) :
    (∃ letter, escapeOf? letter = some c ∧ escapeChar c = ['\\', letter]) ∨
      (c.toNat < 32 ∧ escapeChar c = '\\' :: 'u' :: Text.hexDigits 4 c.toNat) ∨
        (c ≠ '"' ∧ c ≠ '\\' ∧ 32 ≤ c.toNat ∧ escapeChar c = [c]) := by
  have codes {n : Nat} (same : c.toNat = n) : Char.ofNat n = c := same ▸ c.ofNat_toNat
  simp only [escapeChar, beq_iff_eq]
  split
  · exact .inl ⟨'"', congrArg some (Eq.symm ‹_›), rfl⟩
  split
  · exact .inl ⟨'\\', congrArg some (Eq.symm ‹_›), rfl⟩
  split
  · exact .inl ⟨'n', congrArg some (Eq.symm ‹_›), rfl⟩
  split
  · exact .inl ⟨'r', congrArg some (Eq.symm ‹_›), rfl⟩
  split
  · exact .inl ⟨'t', congrArg some (Eq.symm ‹_›), rfl⟩
  split
  · exact .inl ⟨'b', congrArg some (codes ‹_›), rfl⟩
  split
  · exact .inl ⟨'f', congrArg some (codes ‹_›), rfl⟩
  split
  · exact .inr (.inl ⟨‹_›, rfl⟩)
  · exact .inr (.inr ⟨‹_›, ‹_›, by omega, rfl⟩)

section

variable {opened fuel : Nat} {c : Char} {text rest : List Char} {more : List Glyph}

private theorem readString_letter {letter : Char} (known : escapeOf? letter = some c)
    (read : readString opened fuel text = .ok (more, rest)) :
    readString opened (fuel + 1) ('\\' :: letter :: text) = .ok (.char c :: more, rest) := by
  have apart : letter ≠ 'u' := fun same => by simp [same, escapeOf?] at known
  rw [readString]
  · simp only [known, read]
    rfl
  · exact apart

private theorem readString_escape {next : Char} (control : c.toNat < 32)
    (read : readString opened fuel (next :: text) = .ok (more, rest)) :
    readString opened (fuel + 1) ('\\' :: 'u' :: Text.hexDigits 4 c.toNat ++ next :: text) =
      .ok (.char c :: more, rest) := by
  rw [List.cons_append, List.cons_append, readString, ← List.cons_append,
    readUnicodeEscape_hexDigits control]
  simp only [bind, Except.bind]
  rw [read]
  rfl

private theorem readString_plain (quote : c ≠ '"') (backslash : c ≠ '\\') (printable : 32 ≤ c.toNat)
    (read : readString opened fuel text = .ok (more, rest)) :
    readString opened (fuel + 1) (c :: text) = .ok (.char c :: more, rest) := by
  rw [readString]
  · rw [if_neg (by omega), read]
    rfl
  all_goals simp_all

/-- A character that is written inside quotes is read as itself, whatever text follows. -/
theorem readString_escapeChar (c : Char) {next : Char}
    (read : readString opened fuel (next :: text) = .ok (more, rest)) :
    readString opened (fuel + 1) (escapeChar c ++ next :: text) = .ok (.char c :: more, rest) := by
  obtain ⟨letter, known, written⟩ | ⟨control, written⟩ | ⟨quote, backslash, printable, written⟩ :=
    escapeChar_cases c
  · exact written ▸ readString_letter known read
  · exact written ▸ readString_escape control read
  · exact written ▸ readString_plain quote backslash printable read

end

/-- A text that is written in quotes is read up to its closing quote. -/
theorem readString_written (opened : Nat) {fuel : Nat} (s rest : List Char)
    (enough : s.length < fuel) :
    readString opened fuel (s.flatMap escapeChar ++ '"' :: rest) =
      .ok (s.map Glyph.char, rest) := by
  induction s generalizing fuel with
  | nil =>
    obtain ⟨fuel, rfl⟩ := Nat.exists_eq_add_one.mpr enough
    rfl
  | cons c s ih =>
    rw [List.length_cons] at enough
    obtain ⟨fuel, rfl⟩ := Nat.exists_eq_add_one_of_ne_zero (show fuel ≠ 0 by omega)
    have later := ih (Nat.lt_of_succ_lt_succ enough)
    rw [List.flatMap_cons, List.append_assoc]
    -- the closing quote at the latest follows, as an escape may not end the text
    cases tail : s.flatMap escapeChar ++ '"' :: rest with
    | nil => simp at tail
    | cons next text => exact readString_escapeChar c (tail ▸ later)

private theorem length_le_escaped (s : List Char) : s.length ≤ (s.flatMap escapeChar).length := by
  induction s with
  | nil => exact Nat.le_refl 0
  | cons c s ih =>
    have some : 0 < (escapeChar c).length := by
      obtain ⟨_, _, written⟩ | ⟨_, written⟩ | ⟨_, _, _, written⟩ := escapeChar_cases c
      all_goals simp [written]
    rw [List.flatMap_cons, List.length_append, List.length_cons]
    omega

/-- A quoted text is read up to its closing quote. -/
theorem readQuoted_writeString (s : String) (rest : List Char) :
    readQuoted (writeString s ++ rest) = .ok (s.toList.map Glyph.char, rest) := by
  have enough : s.toList.length < (s.toList.flatMap escapeChar ++ '"' :: rest).length + 1 := by
    have escaped := length_le_escaped s.toList
    rw [List.length_append]
    omega
  simp only [writeString, List.cons_append, List.append_assoc, List.nil_append, readQuoted,
    readString_written _ s.toList rest enough]

/-! ## Whole numbers -/

/-- Whether a number that stands before a text ends there. -/
def endsNumber (rest : List Char) : Bool :=
  rest.head?.all fun c => !isDigit c && c != '.' && c != 'e' && c != 'E'

private theorem isDigit_of_mem {n : Nat} {c : Char} (member : c ∈ Nat.toDigits 10 n) :
    isDigit c = true :=
  Nat.isDigit_of_mem_toDigits (by decide) (by decide) member

theorem exists_digit (n : Nat) : ∃ c more, Nat.toDigits 10 n = c :: more ∧ isDigit c = true := by
  obtain ⟨c, more, written⟩ := List.exists_cons_of_ne_nil (Nat.toDigits_ne_nil (n := n) (b := 10))
  exact ⟨c, more, written, isDigit_of_mem (written ▸ List.mem_cons_self)⟩

theorem apart_of_isDigit {c other : Char} (digit : isDigit c = true)
    (apart : isDigit other = false) : c ≠ other := by
  rintro rfl
  rw [digit] at apart
  cases apart

private theorem digitsValue_toDigits (n : Nat) : digitsValue (Nat.toDigits 10 n) = n :=
  Nat.ofDigitChars_eq_foldl.symm.trans Nat.ofDigitChars_ten_toDigits

/-- A number is written without a needless zero in front. -/
theorem head_toDigits {n : Nat} (positive : 0 < n) : (Nat.toDigits 10 n).head? ≠ some '0' := by
  induction n using Nat.strongRecOn with
  | ind n ih =>
    rw [Nat.toDigits_eq_if (by decide)]
    split
    · have few : ∀ n < 10, 0 < n → [n.digitChar].head? ≠ some '0' := by decide
      exact few n ‹_› positive
    · rw [List.head?_append_of_ne_nil _ Nat.toDigits_ne_nil]
      exact ih (n / 10) (by omega) (by omega)

/-- A number that is written with digits is read up to its last digit. -/
private theorem readWhole?_toDigits {rest : List Char} (ends : endsNumber rest = true) (n : Nat) :
    readWhole? (Nat.toDigits 10 n ++ rest) = some (Nat.toDigits 10 n, rest) := by
  obtain rfl | positive := Nat.eq_zero_or_pos n
  · rfl
  · have stops : rest.takeWhile isDigit = [] ∧ rest.dropWhile isDigit = rest := by
      cases rest with
      | nil => exact ⟨rfl, rfl⟩
      | cons c rest =>
        have other : isDigit c = false := by simp_all [endsNumber]
        simp [other]
    have digits : (Nat.toDigits 10 n ++ rest).span isDigit = (Nat.toDigits 10 n, rest) := by
      rw [List.span_eq_takeWhile_dropWhile,
        List.takeWhile_append_of_pos fun _ member => isDigit_of_mem member,
        List.dropWhile_append_of_pos fun _ member => isDigit_of_mem member,
        stops.1, stops.2, List.append_nil]
    have head := head_toDigits positive
    obtain ⟨c, more, written, digit⟩ := exists_digit n
    rw [written] at digits head ⊢
    rw [List.cons_append] at digits ⊢
    rw [readWhole?, if_pos digit, digits]
    exact fun zero => head (congrArg some zero)

private theorem readFraction_eq_none {rest : List Char} (ends : endsNumber rest = true) :
    readFraction rest = none := by
  unfold readFraction
  split
  · simp [endsNumber] at ends
  · rfl

private theorem readExponent_eq_none {rest : List Char} (ends : endsNumber rest = true) :
    readExponent rest = none := by
  cases rest with
  | nil => rfl
  | cons c rest =>
    simp only [endsNumber, List.head?_cons, Option.all_some, Bool.and_eq_true, bne_iff_ne] at ends
    simp [readExponent, ends.1.2, ends.2]

private theorem head_ne_minus {n : Nat} {rest text : List Char} :
    Nat.toDigits 10 n ++ rest ≠ '-' :: text := by
  intro same
  obtain ⟨c, more, written, digit⟩ := exists_digit n
  rw [written, List.cons_append] at same
  exact apart_of_isDigit digit (by decide) (List.cons.inj same).1

private theorem fits {n : Nat} (short : n < 10 ^ maxDigits) :
    ¬maxDigits < (Nat.toDigits 10 n).length :=
  Nat.not_lt.mpr ((Nat.length_toDigits_le_iff (by decide) (by decide)).mpr short)

section

variable {n : Nat} (short : n < 10 ^ maxDigits) {rest : List Char} (ends : endsNumber rest = true)

include short ends

private theorem readNumber_negative :
    readNumber ('-' :: Nat.toDigits 10 n ++ rest) = .ok (.int (-n), rest) := by
  rw [List.cons_append, readNumber]
  simp [readWhole?_toDigits ends n, readFraction_eq_none ends, readExponent_eq_none ends,
    fits short, digitsValue_toDigits]

private theorem readNumber_natural :
    readNumber (Nat.toDigits 10 n ++ rest) = .ok (.int n, rest) := by
  unfold readNumber
  split
  rename_i signed
  split at signed
  · exact absurd ‹_› head_ne_minus
  · obtain ⟨rfl, rfl⟩ := Prod.mk.inj signed
    simp [readWhole?_toDigits ends n, readFraction_eq_none ends, readExponent_eq_none ends,
      fits short, digitsValue_toDigits]

end

/-- A whole number of not too many digits is read as itself before a text that ends it. -/
theorem readNumber_writeInt {n : Int} (short : n.natAbs < 10 ^ maxDigits) {rest : List Char}
    (ends : endsNumber rest = true) : readNumber (writeInt n ++ rest) = .ok (.int n, rest) := by
  cases n with
  | ofNat n => exact readNumber_natural short ends
  | negSucc n => exact readNumber_negative short ends

end PageHarvest.Json
