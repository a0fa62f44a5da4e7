import PageHarvest.Proofs.Text.Pieces
import PageHarvest.Text.Integer
import PageHarvest.Text.Lowercase

/-! # Words and numbers as they are written

A word may be written with small and capital letters; lower-casing gives the word back and leaves
what follows it to itself. A number is written with decimal digits and is read as itself.
-/

namespace PageHarvest.Text

/-- A text that writes a word of small letters with letters of either case. -/
def Spells (word : String) (text : List Char) : Prop := text.map Char.toLower = word.toList

instance (word : String) (text : List Char) : Decidable (Spells word text) :=
  inferInstanceAs (Decidable (_ = _))

theorem isUpper_iff {c : Char} : c.isUpper = true ↔ 65 ≤ c.toNat ∧ c.toNat ≤ 90 :=
  decide_eq_true_iff

theorem isLower_iff {c : Char} : c.isLower = true ↔ 97 ≤ c.toNat ∧ c.toNat ≤ 122 :=
  (Bool.and_eq_true_iff).trans (and_congr decide_eq_true_iff decide_eq_true_iff)

/-- What is no capital letter stays as it is. -/
theorem toLower_of_not_isUpper {c : Char} (small : ¬c.isUpper = true) : c.toLower = c :=
  dif_neg (mt isUpper_iff.mpr small)

private theorem toNat_toLower {c : Char} (capital : c.isUpper = true) :
    c.toLower.toNat = c.toNat + 32 := by
  have bounds := isUpper_iff.mp capital
  have moved : c.toLower.toNat = (c.val + 32).toNat :=
    congrArg Char.toNat (dif_pos (isUpper_iff.mp capital))
  have small : c.val.toNat + 32 < 4294967296 := by
    change c.toNat + 32 < 4294967296
    omega
  rw [moved, UInt32.toNat_add]
  exact Nat.mod_eq_of_lt small

/-- A letter made small is no capital letter. -/
theorem isUpper_toLower (c : Char) : c.toLower.isUpper = false := by
  by_cases capital : c.isUpper = true
  · refine Bool.eq_false_iff.mpr fun again => ?_
    have bounds := isUpper_iff.mp capital
    have bounds' := isUpper_iff.mp again
    rw [toNat_toLower capital] at bounds'
    omega
  · rw [toLower_of_not_isUpper capital]
    exact Bool.eq_false_iff.mpr capital

theorem isAlpha_of_toLower {c : Char} (small : c.toLower.isLower = true) : c.isAlpha = true := by
  refine (Bool.or_eq_true _ _).mpr ?_
  by_cases capital : c.isUpper = true
  · exact .inl capital
  · exact .inr (toLower_of_not_isUpper capital ▸ small)

/-- A letter made small is a small letter. -/
theorem isLower_toLower {c : Char} (letter : c.isAlpha = true) : c.toLower.isLower = true := by
  by_cases capital : c.isUpper = true
  · have bounds := isUpper_iff.mp capital
    refine isLower_iff.mpr ?_
    rw [toNat_toLower capital]
    omega
  · rw [toLower_of_not_isUpper capital]
    exact ((Bool.or_eq_true _ _).mp letter).resolve_left capital

theorem Spells.isAlpha {word : String} {text : List Char} (spells : Spells word text)
    (small : word.toList.all Char.isLower = true) {c : Char} (member : c ∈ text) :
    c.isAlpha = true := by
  have inWord : c.toLower ∈ word.toList := spells ▸ List.mem_map_of_mem member
  exact isAlpha_of_toLower (List.all_eq_true.mp small _ inWord)

/-- A word holds nothing but letters. -/
theorem Spells.not_mem {word : String} {text : List Char} (spells : Spells word text)
    (small : word.toList.all Char.isLower = true) {c : Char} (noLetter : c.isAlpha = false) :
    c ∉ text := by
  intro member
  rw [spells.isAlpha small member] at noLetter
  cases noLetter

theorem toNat_of_isAlpha {c : Char} (alpha : c.isAlpha = true) :
    65 ≤ c.toNat ∧ c.toNat ≤ 90 ∨ 97 ≤ c.toNat ∧ c.toNat ≤ 122 := by
  obtain upper | lower : c.isUpper = true ∨ c.isLower = true := (Bool.or_eq_true _ _).mp alpha
  · exact .inl (isUpper_iff.mp upper)
  · exact .inr (isLower_iff.mp lower)

theorem toNat_of_isDigit {c : Char} (digit : c.isDigit = true) : 48 ≤ c.toNat ∧ c.toNat ≤ 57 := by
  simpa [Char.isDigit, UInt32.le_iff_toNat_le] using digit

/-- A printable ASCII character is no blank. -/
theorem isBlank_eq_false_of_printable {c : Char} (bounds : 33 ≤ c.toNat ∧ c.toNat ≤ 126) :
    isBlank c = false := by
  simp only [isBlank, Bool.or_eq_false_iff, Bool.and_eq_false_iff, decide_eq_false_iff_not,
    beq_eq_false_iff_ne]
  omega

theorem isBlank_of_isAlpha {c : Char} (alpha : c.isAlpha = true) : isBlank c = false :=
  isBlank_eq_false_of_printable (by have := toNat_of_isAlpha alpha; omega)

theorem isBlank_of_isDigit {c : Char} (digit : c.isDigit = true) : isBlank c = false :=
  isBlank_eq_false_of_printable (by have := toNat_of_isDigit digit; omega)

theorem unpadded_of_forall {core : List Char} (solid : ∀ c ∈ core, isBlank c = false) :
    Unpadded core :=
  ⟨fun c first => solid c (List.mem_of_mem_head? first),
    fun c last => solid c (List.mem_of_mem_getLast? last)⟩

/-! ## Words -/

private theorem lowerAfter_letters {letters : List Char} (alpha : ∀ c ∈ letters, c.isAlpha = true)
    (seen rest : List Char) :
    lowerAfter seen (letters ++ rest) =
      letters.map Char.toLower ++ lowerAfter (letters.reverse ++ seen) rest := by
  induction letters generalizing seen with
  | nil => rfl
  | cons c more ih =>
    have bounds := toNat_of_isAlpha (alpha c (List.mem_cons_self ..))
    have noDotted : (c.toNat == 0x130) = false := by simp; omega
    have noSigma : (c.toNat == 0x3A3) = false := by simp; omega
    have small : lowerChar c = c.toLower := if_pos (by omega)
    have tail := ih (fun d member => alpha d (List.mem_cons_of_mem _ member)) (c :: seen)
    simp [lowerAfter, noDotted, noSigma, small, tail]

/-- Lower-casing a text that begins with a word gives the word first, whatever stands before. -/
theorem Spells.lowerAfter_append {word : String} {text : List Char} (spells : Spells word text)
    (small : word.toList.all Char.isLower = true) (seen rest : List Char) :
    lowerAfter seen (text ++ rest) = word.toList ++ lowerAfter (text.reverse ++ seen) rest := by
  rw [lowerAfter_letters (fun _ member => spells.isAlpha small member), spells]

/-- Lower-casing a word in front of a text gives the word back. -/
theorem Spells.lower_append {word : String} {text : List Char} (spells : Spells word text)
    (small : word.toList.all Char.isLower = true) (rest : List Char) :
    lower (text ++ rest) = word.toList ++ lowerAfter text.reverse rest := by
  rw [lower, spells.lowerAfter_append small, List.append_nil]

theorem Spells.lower_eq {word : String} {text : List Char} (spells : Spells word text)
    (small : word.toList.all Char.isLower = true) : lower text = word.toList := by
  simpa [lowerAfter] using spells.lower_append small []

theorem lowerAfter_ne_nil (seen : List Char) {s : List Char} (given : s ≠ []) :
    lowerAfter seen s ≠ [] := by
  cases s with
  | nil => exact absurd rfl given
  | cons c rest =>
    simp only [lowerAfter, ne_eq, List.append_eq_nil_iff, not_and]
    intro nothing
    split at nothing
    · cases nothing
    · split at nothing
      · split at nothing <;> cases nothing
      · cases nothing

theorem Spells.ne_nil {word : String} {text : List Char} (spells : Spells word text)
    (given : word.toList ≠ []) : text ≠ [] := by
  rintro rfl
  exact given spells.symm

theorem Spells.unpadded {word : String} {text : List Char} (spells : Spells word text)
    (small : word.toList.all Char.isLower = true) : Unpadded text :=
  unpadded_of_forall fun _ member => isBlank_of_isAlpha (spells.isAlpha small member)

/-! ## Numbers -/

private theorem digitValue?_of_isDigit {c : Char} (digit : c.isDigit = true) :
    digitValue? c = some (c.toNat - 48) := by
  have bounds := toNat_of_isDigit digit
  rw [digitValue?, if_pos (by omega), if_pos digit]

/-- Digits that are not too many are read as the number that they write. -/
private theorem readDigits_digits {digits : List Char} (all : ∀ c ∈ digits, c.isDigit = true)
    (value count : Nat) (some_digit : 0 < count + digits.length)
    (short : count + digits.length ≤ maxDigits) :
    readDigits value count false digits = some (Nat.ofDigitChars 10 digits value) := by
  induction digits generalizing value count with
  | nil =>
    have present : count ≠ 0 := by simp at some_digit; omega
    have fits : ¬ maxDigits < count := by simpa using short
    simp [readDigits, present, fits]
  | cons c rest ih =>
    have digit := all c (List.mem_cons_self ..)
    have noGap : c ≠ '_' := by rintro rfl; exact absurd digit (by decide)
    have tail := ih (fun d member => all d (List.mem_cons_of_mem _ member))
      (10 * value + (c.toNat - 48)) (count + 1) (by omega)
      (by simp only [List.length_cons] at short; omega)
    rw [readDigits]
    · simp only [digitValue?_of_isDigit digit, tail, Nat.ofDigitChars_cons]
      rfl
    · exact noGap

theorem isDigit_of_mem_toDigits {n : Nat} {c : Char} (member : c ∈ Nat.toDigits 10 n) :
    c.isDigit = true :=
  Nat.isDigit_of_mem_toDigits (by decide) (by decide) member

/-- A number of at most `maxDigits` digits is read as itself. -/
theorem readInteger?_toDigits {n : Nat} (short : (Nat.toDigits 10 n).length ≤ maxDigits) :
    readInteger? (Nat.toDigits 10 n) = some (Int.ofNat n) := by
  have read : readNatural? (Nat.toDigits 10 n) = some n := by
    rw [readNatural?, readDigits_digits (fun _ member => isDigit_of_mem_toDigits member) 0 0
      (by simpa using Nat.length_toDigits_pos) (by simpa using short),
      Nat.ofDigitChars_ten_toDigits]
  obtain ⟨c, rest, same⟩ := List.exists_cons_of_ne_nil (Nat.toDigits_ne_nil (n := n) (b := 10))
  have bounds := toNat_of_isDigit (isDigit_of_mem_toDigits (same ▸ List.mem_cons_self ..))
  rw [same] at read ⊢
  rw [readInteger?]
  · rw [read]; rfl
  · intro unsigned signed
    obtain ⟨rfl, -⟩ := List.cons_eq_cons.mp signed
    exact absurd bounds.1 (by decide)
  · intro unsigned signed
    obtain ⟨rfl, -⟩ := List.cons_eq_cons.mp signed
    exact absurd bounds.1 (by decide)

end PageHarvest.Text
