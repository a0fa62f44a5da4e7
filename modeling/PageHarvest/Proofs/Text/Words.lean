import PageHarvest.Proofs.Text.Casing

/-! # Words told by their lower case

Beside the capitals of ASCII only two characters have a lower case in ASCII: the sign of the kelvin,
which becomes `k`, and the dotted capital I, which becomes `i` and a dot above. So a text that is
lower-cased to a word without `k` writes the word in letters of either case.
-/

namespace PageHarvest.Text

/-- A small letter that only letters of ASCII are lower-cased to. -/
def isPlainLetter (c : Char) : Bool := c.isLower && c != 'k'

/-- A word of plain letters. It does not end in `i`, which is all that is left of a dotted capital I
when the dot is cut off. -/
structure PlainWord (word : List Char) : Prop where
  letters : ∀ c ∈ word, isPlainLetter c = true
  ends : 'i' ∉ word.getLast?

instance (word : List Char) : Decidable (PlainWord word) :=
  decidable_of_iff (word.all isPlainLetter = true ∧ 'i' ∉ word.getLast?)
    ⟨fun h => ⟨List.all_eq_true.mp h.1, h.2⟩, fun h => ⟨List.all_eq_true.mpr h.1, h.2⟩⟩

/-- The plain letters, as code points. -/
def plainRuns : List CaseRun := [⟨97, 106, 1, 0⟩, ⟨108, 122, 1, 0⟩]

private theorem plainRuns_apart : (caseRuns.all fun run =>
    run.last < 128 || plainRuns.all run.image.apart) = true := by
  decide +kernel

private theorem toNat_of_isPlainLetter {c : Char} (plain : isPlainLetter c = true) :
    97 ≤ c.toNat ∧ c.toNat ≤ 122 ∧ c.toNat ≠ 107 := by
  obtain ⟨small, notK⟩ := (Bool.and_eq_true _ _).mp plain
  obtain ⟨least, most⟩ := (Bool.and_eq_true _ _).mp small
  refine ⟨of_decide_eq_true least, of_decide_eq_true most, ?_⟩
  intro same
  rw [← Char.ofNat_toNat c, same] at notK
  exact absurd notK (by decide)

private theorem covers_of_isPlainLetter {c : Char} (plain : isPlainLetter c = true) :
    ∃ run ∈ plainRuns, run.covers c.toNat = true := by
  obtain ⟨least, most, notK⟩ := toNat_of_isPlainLetter plain
  rw [plainRuns]
  by_cases front : c.toNat ≤ 106
  · refine ⟨_, List.mem_cons_self, CaseRun.covers_iff.mpr ⟨least, front, Nat.mod_one _⟩⟩
  · have back : 108 ≤ c.toNat := by omega
    exact ⟨_, List.mem_cons_of_mem _ List.mem_cons_self,
      CaseRun.covers_iff.mpr ⟨back, most, Nat.mod_one _⟩⟩

/-- Outside ASCII no character by itself is lower-cased to a plain letter. -/
theorem toLower_eq_of_lowerChar {c letter : Char} (plain : isPlainLetter letter = true)
    (same : lowerChar c = letter) : c.toLower = letter := by
  have bounds := toNat_of_isPlainLetter plain
  rw [lowerChar] at same
  split at same
  · exact same
  · next wide =>
    split at same
    · next run found =>
      have member := List.mem_of_find?_eq_some found
      have covered : run.covers c.toNat = true :=
        List.find?_some (p := fun other : CaseRun => other.covers c.toNat) found
      have most := (CaseRun.covers_iff.mp covered).2.1
      have apart := List.all_eq_true.mp plainRuns_apart run member
      have high : decide (run.last < 128) = false := decide_eq_false (by omega)
      rw [high, Bool.false_or] at apart
      obtain ⟨other, among, covers⟩ := covers_of_isPlainLetter plain
      have inImage := CaseRun.image_covers (image_positive run member) covered
      have outside := CaseRun.covers_of_apart (List.all_eq_true.mp apart other among) inImage
      have valid : ((c.toNat : Int) + run.shift).toNat.isValidChar := by
        by_contra invalid
        rw [Char.ofNat, dif_neg invalid] at same
        rw [← same] at bounds
        exact absurd bounds (by decide)
      rw [← same, Char.ofNat, dif_pos valid] at covers
      change other.covers ((c.toNat : Int) + run.shift).toNat = true at covers
      rw [outside] at covers
      cases covers
    · rw [same] at wide
      omega

/-- A lower-cased text begins with a plain word just if the text begins with the word in letters of
either case. -/
theorem exists_spelling {word seen text : List Char} (plain : PlainWord word)
    (begins : word <+: lowerAfter seen text) :
    ∃ spelling rest, text = spelling ++ rest ∧ spelling.map Char.toLower = word := by
  induction word generalizing seen text with
  | nil => exact ⟨[], text, rfl, rfl⟩
  | cons letter word ih =>
    cases text with
    | nil => exact absurd (List.prefix_nil.mp begins) (List.cons_ne_nil _ _)
    | cons c rest =>
      have letters := List.forall_mem_cons.mp plain.letters
      rw [lowerAfter] at begins
      by_cases dotted : c.toNat = 0x130
      · -- the dot above the small letter is none of the word
        rw [if_pos (beq_iff_eq.mpr dotted)] at begins
        obtain ⟨first, begins⟩ := List.cons_prefix_cons.mp begins
        cases word with
        | nil => exact absurd (Option.mem_def.mpr (congrArg some first)) plain.ends
        | cons next more =>
          obtain ⟨dot, -⟩ := List.cons_prefix_cons.mp begins
          exact absurd (dot ▸ letters.2 next List.mem_cons_self) (by decide)
      · rw [if_neg (by simpa using dotted)] at begins
        by_cases sigma : c.toNat = 0x3A3
        · rw [if_pos (beq_iff_eq.mpr sigma)] at begins
          split at begins
          · obtain ⟨rfl, -⟩ := List.cons_prefix_cons.mp begins
            exact absurd letters.1 (by decide)
          · obtain ⟨rfl, -⟩ := List.cons_prefix_cons.mp begins
            exact absurd letters.1 (by decide)
        · rw [if_neg (by simpa using sigma)] at begins
          obtain ⟨same, begins⟩ := List.cons_prefix_cons.mp begins
          have small := toLower_eq_of_lowerChar letters.1 same.symm
          have ends : 'i' ∉ word.getLast? := by
            cases word with
            | nil => simp
            | cons next more => simpa [List.getLast?_cons_cons] using plain.ends
          obtain ⟨spelling, others, rfl, spelled⟩ := ih ⟨letters.2, ends⟩ begins
          exact ⟨c :: spelling, others, rfl, by rw [List.map_cons, small, spelled]⟩

theorem PlainWord.small {word : List Char} (plain : PlainWord word) :
    word.all Char.isLower = true :=
  List.all_eq_true.mpr fun c member =>
    ((Bool.and_eq_true _ _).mp (plain.letters c member)).1

/-- A text begins with a word in any case if its lower case begins with it. -/
theorem isPrefixOf_lower_iff {word : String} (plain : PlainWord word.toList) (text : List Char) :
    word.toList.isPrefixOf (lower text) = true ↔
      ∃ spelling rest, text = spelling ++ rest ∧ Spells word spelling := by
  rw [List.isPrefixOf_iff_prefix]
  constructor
  · exact exists_spelling plain
  · rintro ⟨spelling, rest, rfl, spells⟩
    rw [spells.lower_append plain.small]
    exact List.prefix_append _ _

/-- A text is a word in any case if its lower case is the word, whatever stands before. -/
theorem lowerAfter_eq_iff_spells {word : String} (plain : PlainWord word.toList)
    (seen text : List Char) : lowerAfter seen text = word.toList ↔ Spells word text := by
  constructor
  · intro same
    have begins : word.toList <+: lowerAfter seen text := by rw [same]
    obtain ⟨spelling, rest, rfl, spells⟩ := exists_spelling plain begins
    have split := Spells.lowerAfter_append spells plain.small seen rest
    cases rest with
    | nil => rwa [List.append_nil]
    | cons c more =>
      have nothing := List.self_eq_append_right.mp (same.symm.trans split)
      exact absurd nothing (lowerAfter_ne_nil _ (List.cons_ne_nil _ _))
  · intro spells
    have split := spells.lowerAfter_append plain.small seen []
    rwa [List.append_nil, lowerAfter, List.append_nil] at split

/-- A text is a word in any case if its lower case is the word. -/
theorem lower_eq_iff_spells {word : String} (plain : PlainWord word.toList) (text : List Char) :
    lower text = word.toList ↔ Spells word text :=
  lowerAfter_eq_iff_spells plain [] text

end PageHarvest.Text
