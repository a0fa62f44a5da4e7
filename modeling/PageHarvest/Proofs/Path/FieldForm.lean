import PageHarvest.Path.Field
import PageHarvest.Proofs.Path.Accepted
import PageHarvest.Proofs.Path.FieldText
import PageHarvest.Proofs.Path.Splitting
import PageHarvest.Proofs.Path.WellFormed
import PageHarvest.Proofs.Text.Words

/-! # Which form a field text has

A field text lists arguments if it begins with the word `selector`, in any case, and a colon; any
other text is a selector as a whole. The reader of arguments has its own notion of a key: what
stands before the first colon of an argument, trimmed and lower-cased. The two agree on every text
whose first key is not written with the long s, which counts as an `s` where case is ignored but is
not lower-cased to one. Such a text is read as a list, and the list has no selector in that place.
-/

namespace PageHarvest.Text

/-! ## The long s -/

private theorem longS_no_image : ∀ run ∈ caseRuns, run.image.covers 0x17F = false := by
  decide +kernel

private theorem longS_not_small : ∀ code < 128, lowerChar (Char.ofNat code) ≠ 'ſ' := by
  decide

/-- Nothing but the long s is lower-cased to it. -/
theorem eq_longS_of_lowerChar {c : Char} (same : lowerChar c = 'ſ') : c = 'ſ' := by
  by_cases ascii : c.toNat < 128
  · have differ := longS_not_small c.toNat ascii
    rw [Char.ofNat_toNat] at differ
    exact absurd same differ
  · rw [lowerChar, if_neg ascii] at same
    split at same
    · next run found =>
      have member := List.mem_of_find?_eq_some found
      have covered : run.covers c.toNat = true :=
        List.find?_some (p := fun other : CaseRun => other.covers c.toNat) found
      have inImage := CaseRun.image_covers (image_positive run member) covered
      have outside := longS_no_image run member
      have code : ((c.toNat : Int) + run.shift).toNat = 0x17F := by
        by_cases valid : ((c.toNat : Int) + run.shift).toNat.isValidChar
        · rw [Char.ofNat, dif_pos valid] at same
          exact congrArg Char.toNat same
        · rw [Char.ofNat, dif_neg valid] at same
          exact absurd same (by decide)
      rw [code, outside] at inImage
      cases inImage
    · exact same

private theorem lowerAfter_longS (seen rest : List Char) :
    lowerAfter seen ('ſ' :: rest) = 'ſ' :: lowerAfter ('ſ' :: seen) rest := by
  have small : lowerChar 'ſ' = 'ſ' := by decide
  rw [lowerAfter, if_neg (by decide), if_neg (by decide), small]
  rfl

/-- A lower-cased text begins with the long s just if the text does. -/
theorem exists_longS {seen text small : List Char} (lowered : lowerAfter seen text = 'ſ' :: small) :
    ∃ rest, text = 'ſ' :: rest ∧ lowerAfter ('ſ' :: seen) rest = small := by
  cases text with
  | nil => cases lowered
  | cons c rest =>
    have first : c = 'ſ' := by
      rw [lowerAfter] at lowered
      split at lowered
      · exact absurd (List.cons.inj lowered).1 (by decide)
      · split at lowered
        · split at lowered
          · exact absurd (List.cons.inj lowered).1 (by decide)
          · exact absurd (List.cons.inj lowered).1 (by decide)
        · exact eq_longS_of_lowerChar (List.cons.inj lowered).1
    subst first
    rw [lowerAfter_longS] at lowered
    exact ⟨rest, rfl, (List.cons.inj lowered).2⟩

end PageHarvest.Text

namespace PageHarvest.Path

open Text

/-! ## The word in front -/

/-- A text that writes the word `selector` when case is ignored. -/
def SpellsSelector (text : List Char) : Prop :=
  Spells "selector" text ∨ ∃ rest, text = 'ſ' :: rest ∧ Spells "elector" rest

/-- The key of a selector, written with the long s. -/
def longKey : List Char := "ſelector".toList

/-- The word is written just by the texts that have one of two lower cases. -/
theorem spellsSelector_iff {text : List Char} :
    SpellsSelector text ↔ lower text = "selector".toList ∨ lower text = longKey := by
  have plain : PlainWord "selector".toList := by decide
  have plainRest : PlainWord "elector".toList := by decide
  refine or_congr (lower_eq_iff_spells plain text).symm ⟨?_, ?_⟩
  · rintro ⟨rest, rfl, spells⟩
    rw [lower, lowerAfter_longS, (lowerAfter_eq_iff_spells plainRest _ rest).mpr spells]
    rfl
  · intro lowered
    have word : longKey = 'ſ' :: "elector".toList := rfl
    rw [lower, word] at lowered
    obtain ⟨rest, rfl, small⟩ := exists_longS lowered
    exact ⟨rest, rfl, (lowerAfter_eq_iff_spells plainRest _ rest).mp small⟩

/-- The word holds nothing but letters. -/
theorem SpellsSelector.letters {text : List Char} (spells : SpellsSelector text) {c : Char}
    (member : c ∈ text) : c.isAlpha = true ∨ c = 'ſ' := by
  rcases spells with whole | ⟨rest, rfl, spells⟩
  · exact .inl (whole.isAlpha (by decide) member)
  · rcases List.mem_cons.mp member with first | later
    · exact .inr first
    · exact .inl (spells.isAlpha (by decide) later)

private theorem SpellsSelector.not_mem {text : List Char} (spells : SpellsSelector text) {c : Char}
    (noLetter : c.isAlpha = false) (notLong : c ≠ 'ſ') : c ∉ text := by
  intro member
  rcases spells.letters member with alpha | long
  · rw [alpha] at noLetter
    cases noLetter
  · exact notLong long

private theorem SpellsSelector.ne_nil {text : List Char} (spells : SpellsSelector text) :
    text ≠ [] := by
  rintro rfl
  rcases spells with ⟨⟨⟩⟩ | ⟨_, ⟨⟩, _⟩

private theorem SpellsSelector.unpadded {text : List Char} (spells : SpellsSelector text) :
    Unpadded text := by
  apply unpadded_of_forall
  intro c member
  rcases spells.letters member with alpha | rfl
  · exact isBlank_of_isAlpha alpha
  · decide

private theorem spells_iff {letter c : Char} (plain : isPlainLetter letter = true) :
    spells letter c = true ↔ c.toLower = letter ∨ letter = 's' ∧ c = 'ſ' := by
  rw [spells, Bool.or_eq_true, Bool.and_eq_true, beq_iff_eq, beq_iff_eq, beq_iff_eq]
  refine or_congr ⟨toLower_eq_of_lowerChar plain, ?_⟩ (and_congr_right fun _ => ⟨?_, ?_⟩)
  · rintro rfl
    have small : c.toLower.isLower = true := ((Bool.and_eq_true _ _).mp plain).1
    have bounds := toNat_of_isAlpha (isAlpha_of_toLower small)
    exact if_pos (by omega)
  · intro code
    rw [← Char.ofNat_toNat c, code]
  · rintro rfl
    rfl

/-- What follows a word is what is left when the spelling of its letters is taken away. -/
theorem afterWord?_eq_some_iff {word text rest : List Char} :
    afterWord? word text = some rest ↔
      ∃ spelling, text = spelling ++ rest ∧
        List.Forall₂ (fun letter c => spells letter c = true) word spelling := by
  induction word generalizing text with
  | nil =>
    rw [afterWord?, Option.some.injEq]
    constructor
    · rintro rfl
      exact ⟨[], rfl, .nil⟩
    · rintro ⟨spelling, rfl, none⟩
      cases none
      rfl
  | cons letter word ih =>
    cases text with
    | nil =>
      refine iff_of_false nofun ?_
      rintro ⟨spelling, nothing, spelled⟩
      cases spelled with
      | cons => cases nothing
    | cons c more =>
      rw [afterWord?]
      constructor
      · intro found
        split at found
        · next first =>
          obtain ⟨spelling, rfl, spelled⟩ := ih.mp found
          exact ⟨c :: spelling, rfl, .cons first spelled⟩
        · cases found
      · rintro ⟨spelling, same, spelled⟩
        cases spelled with
        | cons first others =>
          obtain ⟨rfl, rfl⟩ := List.cons.inj same
          rw [if_pos first]
          exact ih.mpr ⟨_, rfl, others⟩

private theorem spelled_iff_toLower {word text : List Char} (plain : word.all isPlainLetter = true)
    (noS : 's' ∉ word) :
    List.Forall₂ (fun letter c => spells letter c = true) word text ↔
      text.map Char.toLower = word := by
  induction word generalizing text with
  | nil => rw [List.forall₂_nil_left_iff, List.map_eq_nil_iff]
  | cons letter word ih =>
    rw [List.all_cons, Bool.and_eq_true] at plain
    rw [List.mem_cons, not_or] at noS
    have notS : letter ≠ 's' := Ne.symm noS.1
    cases text with
    | nil => exact iff_of_false nofun nofun
    | cons c rest =>
      rw [List.forall₂_cons, spells_iff plain.1, ih plain.2 noS.2, List.map_cons,
        List.cons_eq_cons]
      simp only [notS, false_and, or_false]

/-- The letters of `selector` are spelled by the texts that write the word. -/
theorem spelled_selector_iff {text : List Char} :
    List.Forall₂ (fun letter c => spells letter c = true) "selector".toList text ↔
      SpellsSelector text := by
  have word : "selector".toList = 's' :: "elector".toList := rfl
  have plain : "elector".toList.all isPlainLetter = true := by decide
  have noS : 's' ∉ "elector".toList := by decide
  rw [SpellsSelector, Spells, word]
  cases text with
  | nil => exact iff_of_false nofun (by rintro (⟨⟨⟩⟩ | ⟨_, ⟨⟩, _⟩))
  | cons c rest =>
    rw [List.forall₂_cons, spelled_iff_toLower plain noS, spells_iff (by decide), List.map_cons,
      List.cons_eq_cons, or_and_right]
    refine or_congr Iff.rfl ⟨?_, ?_⟩
    · rintro ⟨⟨-, rfl⟩, spells⟩
      exact ⟨rest, rfl, spells⟩
    · rintro ⟨others, same, spells⟩
      obtain ⟨rfl, rfl⟩ := List.cons.inj same
      exact ⟨⟨rfl, rfl⟩, spells⟩

/-! ## The key in front -/

/-- A text that begins with the word, a colon behind it, and blanks around it. -/
def BeginsWithKey (spelling text : List Char) : Prop :=
  ∃ front back rest, isBlankText front = true ∧ isBlankText back = true ∧
    text = front ++ spelling ++ back ++ ':' :: rest

/-- A text is read by the argument grammar exactly when it begins with a key. -/
theorem isArgumentText_iff_begins {text : List Char} :
    isArgumentText text = true ↔
      ∃ spelling, SpellsSelector spelling ∧ BeginsWithKey spelling text := by
  constructor
  · intro listed
    have whole := List.takeWhile_append_dropWhile (p := isBlank) (l := text)
    rw [isArgumentText] at listed
    split at listed
    · cases listed
    · next rest found =>
      obtain ⟨spelling, same, spelled⟩ := afterWord?_eq_some_iff.mp found
      have behind := List.takeWhile_append_dropWhile (p := isBlank) (l := rest)
      obtain ⟨more, colon⟩ := List.head?_eq_some_iff.mp (beq_iff_eq.mp listed)
      refine ⟨spelling, spelled_selector_iff.mp spelled, text.takeWhile isBlank,
        rest.takeWhile isBlank, more, List.all_takeWhile, List.all_takeWhile, ?_⟩
      rw [List.append_assoc, ← colon, behind, List.append_assoc, ← same, whole]
  · rintro ⟨spelling, spells, front, back, rest, blank, blankBack, rfl⟩
    have word : (front ++ (spelling ++ (back ++ ':' :: rest))).dropWhile isBlank =
        spelling ++ (back ++ ':' :: rest) := by
      apply dropWhile_front (fun c member => isBlank_of_mem blank member)
      intro c first
      rw [List.head?_append_of_ne_nil _ spells.ne_nil] at first
      exact spells.unpadded.1 c first
    have colon : (back ++ ':' :: rest).dropWhile isBlank = ':' :: rest := by
      apply dropWhile_front (fun c member => isBlank_of_mem blankBack member)
      rintro c ⟨⟩
      decide
    have found : afterWord? "selector".toList (spelling ++ (back ++ ':' :: rest)) =
        some (back ++ ':' :: rest) :=
      afterWord?_eq_some_iff.mpr ⟨spelling, rfl, spelled_selector_iff.mpr spells⟩
    rw [isArgumentText, List.append_assoc, List.append_assoc, word, found]
    change ((back ++ ':' :: rest).dropWhile isBlank).head? == some ':'
    rw [colon]
    rfl

/-- The key of the first argument of a text as the reader of arguments has it, if a colon stands in
that argument. -/
def leadingKey? (text : List Char) : Option (List Char) :=
  ((splitArguments text).head?.bind (cut [':'])).map fun parts => lower (trim parts.1)

/-- The first argument of a text is its first piece. -/
theorem exists_append_of_head? {text part : List Char}
    (first : (splitArguments text).head? = some part) : ∃ more, text = part ++ more := by
  obtain ⟨parts, split⟩ := List.head?_eq_some_iff.mp first
  have joined := intercalate_splitArgumentsFrom 0 text
  rw [← splitArguments, split] at joined
  cases parts with
  | nil => exact ⟨[], by rw [← joined, List.intercalate_singleton, List.append_nil]⟩
  | cons next rest =>
    rw [List.intercalate_cons_cons, List.append_assoc] at joined
    exact ⟨_, joined.symm⟩

/-- A front without brackets, commas and colons that ends at a colon holds the first key. -/
theorem leadingKey?_of_plain {front : List Char} (noColon : ':' ∉ front)
    (plain : ∀ c ∈ front, c ≠ '(' ∧ c ≠ ')' ∧ c ≠ ',') (rest : List Char) :
    leadingKey? (front ++ ':' :: rest) = some (lower (trim front)) := by
  have colon : Passes 0 [':'] 0 := passes_of_all (by decide) 0
  have passes : Passes 0 (front ++ [':']) 0 := (passes_of_plain plain 0).append colon
  obtain ⟨piece, pieces, split⟩ :=
    List.exists_cons_of_ne_nil (splitArgumentsFrom_ne_nil 0 rest)
  have whole := splitArgumentsFrom_append passes rest
  rw [split, foldr_consFirst, List.append_assoc, List.singleton_append, List.append_assoc,
    List.singleton_append] at whole
  rw [leadingKey?, splitArguments, whole, List.head?_cons, Option.bind_some, cut_append noColon,
    Option.map_some]

/-- The word in front is the key of the first argument. -/
theorem leadingKey?_of_begins {spelling text : List Char} (spells : SpellsSelector spelling)
    (begins : BeginsWithKey spelling text) : leadingKey? text = some (lower spelling) := by
  obtain ⟨front, back, rest, blank, blankBack, rfl⟩ := begins
  have apart {c : Char} (solid : isBlank c = false) (noLetter : c.isAlpha = false)
      (notLong : c ≠ 'ſ') : c ∉ front ++ spelling ++ back := by
    have outside {gap : List Char} (blank : isBlankText gap = true) : c ∉ gap := by
      intro member
      rw [isBlank_of_mem blank member] at solid
      cases solid
    simp only [List.mem_append, outside blank, outside blankBack, spells.not_mem noLetter notLong,
      or_self, not_false_eq_true]
  have padded : Padded spelling (front ++ spelling ++ back) := ⟨front, back, blank, blankBack, rfl⟩
  rw [leadingKey?_of_plain, trim_of_padded spells.unpadded padded]
  · exact apart (by decide) (by decide) (by decide)
  · intro c member
    refine ⟨?_, ?_, ?_⟩
    · rintro rfl
      exact apart (by decide) (by decide) (by decide) member
    · rintro rfl
      exact apart (by decide) (by decide) (by decide) member
    · rintro rfl
      exact apart (by decide) (by decide) (by decide) member

/-- The key of the first argument is the word in front. -/
theorem begins_of_leadingKey? {text key : List Char} (leads : leadingKey? text = some key) :
    ∃ spelling, lower spelling = key ∧ BeginsWithKey spelling text := by
  obtain ⟨⟨front, value⟩, found, rfl⟩ := Option.map_eq_some_iff.mp leads
  obtain ⟨part, first, cuts⟩ := Option.bind_eq_some_iff.mp found
  obtain ⟨more, rfl⟩ := exists_append_of_head? first
  obtain ⟨gap, gapBehind, blank, blankBehind, whole⟩ := padded_trim front
  refine ⟨trim front, rfl, gap, gapBehind, value ++ more, blank, blankBehind, ?_⟩
  rw [← append_of_cut cuts, ← whole, List.append_assoc, List.append_assoc]
  rfl

/-- A text lists arguments just if its first key, as the reader of arguments has it, is `selector`
or the same word with the long s. -/
theorem isArgumentText_iff {text : List Char} :
    isArgumentText text = true ↔
      leadingKey? text = some "selector".toList ∨ leadingKey? text = some longKey := by
  rw [isArgumentText_iff_begins]
  constructor
  · rintro ⟨spelling, spells, begins⟩
    rw [leadingKey?_of_begins spells begins, Option.some.injEq, Option.some.injEq]
    exact spellsSelector_iff.mp spells
  · rintro (leads | leads)
    · obtain ⟨spelling, lowered, begins⟩ := begins_of_leadingKey? leads
      exact ⟨spelling, spellsSelector_iff.mpr (.inl lowered), begins⟩
    · obtain ⟨spelling, lowered, begins⟩ := begins_of_leadingKey? leads
      exact ⟨spelling, spellsSelector_iff.mpr (.inr lowered), begins⟩

/-! ## What is read -/

/-- The field of a text that is read as a list of arguments. -/
def asArguments (text : List Char) : Except Diagnostic FieldSpec :=
  (parseArguments text >>= fieldOfArguments).mapError (·.at text)

/-- The field of a text that is a selector as a whole. -/
def asSelector (text : List Char) : FieldSpec :=
  ⟨⟨String.ofList text, .single 0⟩, .text⟩

/-- The first argument that is read is the one with the leading key. -/
theorem exists_cons_of_leadingKey? {text key : List Char} {args : Arguments}
    (leads : leadingKey? text = some key) (parsed : parseArguments text = .ok args) :
    ∃ value more, args = (key, value) :: more := by
  obtain ⟨⟨front, value⟩, found, rfl⟩ := Option.map_eq_some_iff.mp leads
  obtain ⟨part, first, cuts⟩ := Option.bind_eq_some_iff.mp found
  obtain ⟨parts, split⟩ := List.head?_eq_some_iff.mp first
  have solid : isBlankText part = false := by
    have colon : isBlankText [':'] = false := by decide
    rw [← append_of_cut cuts, isBlankText_append, isBlankText_append, colon, Bool.and_false,
      Bool.false_and]
  have kept : (!isBlankText part) = true := by rw [solid]; rfl
  have read : parseArgument part = .ok (lower (trim front), trim value) := by
    rw [parseArgument, cuts]
  rw [parseArguments, split, List.filter_cons_of_pos (p := fun part => !isBlankText part) kept,
    mapM_eq_ok_iff] at parsed
  obtain ⟨one, more, here, -, rfl⟩ := List.forall₂_cons_left_iff.mp parsed
  obtain rfl := Except.ok.inj (read.symm.trans here)
  exact ⟨trim value, more, rfl⟩

private theorem exists_get?_of_mem {args : Arguments} {key : String} {value : List Char}
    (member : (key.toList, value) ∈ args) : ∃ last, args.get? key = some last := by
  rw [← Option.isSome_iff_exists, Arguments.get?, ← Option.ne_none_iff_isSome]
  intro missing
  rw [List.lookup_eq_none_iff] at missing
  exact absurd (missing _ (List.mem_reverse.mpr member)) (by simp)

private theorem length_le_of_mem_splitArgumentsFrom {depth : Nat} {text part : List Char}
    (member : part ∈ splitArgumentsFrom depth text) : part.length ≤ text.length := by
  induction text generalizing depth part with
  | nil =>
    obtain rfl := List.mem_singleton.mp member
    exact le_rfl
  | cons c rest ih =>
    rw [splitArgumentsFrom] at member
    split at member
    · rcases List.mem_cons.mp member with rfl | later
      · exact Nat.zero_le _
      · exact (ih later).trans (Nat.le_succ _)
    · obtain ⟨piece, pieces, split⟩ :=
        List.exists_cons_of_ne_nil (splitArgumentsFrom_ne_nil (depthAfter depth c) rest)
      have each := @ih (depthAfter depth c)
      rw [split] at member each
      rcases List.mem_cons.mp member with rfl | later
      · exact Nat.succ_le_succ (each List.mem_cons_self)
      · exact (each (List.mem_cons_of_mem _ later)).trans (Nat.le_succ _)

/-- The value of an argument is shorter than the list, by its colon at least. -/
theorem length_lt_of_get? {text value : List Char} {args : Arguments}
    (parsed : parseArguments text = .ok args) {key : String}
    (found : args.get? key = some value) : value.length < text.length := by
  obtain ⟨front, back, member, rfl⟩ := exists_part_of_get? parsed found
  have part := length_le_of_mem_splitArgumentsFrom member
  have trimmed := (isInfix_trim back).length_le
  rw [List.length_append, List.length_cons] at part
  omega

/-- Read as a list of arguments, a text never gives itself as the selector. -/
theorem asArguments_ne_asSelector (text : List Char) :
    asArguments text ≠ .ok (asSelector text) := by
  intro same
  obtain ⟨args, parsed, field⟩ := exists_of_bind_eq_ok (eq_ok_of_mapError same)
  rw [fieldOfArguments_eq] at field
  obtain ⟨query, selects, field⟩ := exists_of_bind_eq_ok field
  obtain ⟨selection, -, field⟩ := exists_of_bind_eq_ok field
  obtain ⟨target, -, field⟩ := exists_of_bind_eq_ok field
  have given : String.ofList text = query :=
    congrArg (fun field : FieldSpec => field.destination.query) (Except.ok.inj field).symm
  have shorter := length_lt_of_get? parsed (selectorOf_eq_ok_iff.mp selects).1
  rw [← given, String.toList_ofList] at shorter
  exact lt_irrefl _ shorter

/-- With the long s in its first key a list has no selector, unless a later argument is one. -/
theorem asArguments_of_no_selector {text : List Char} {args : Arguments}
    (parsed : parseArguments text = .ok args) (missing : args.get? "selector" = none) :
    asArguments text = .error (Fault.selectorMissing.at text) := by
  have fails : fieldOfArguments args = .error .selectorMissing := by
    rw [fieldOfArguments, selectorOf, required, missing]
    rfl
  rw [asArguments, parsed]
  exact congrArg (Except.mapError (·.at text)) fails

/-- Whether the first key of a text makes it a list of arguments. -/
def ListsArguments (text : List Char) : Prop :=
  leadingKey? text = some "selector".toList ∨ leadingKey? text = some longKey

/-- Which form a field text has is told by the first key in it, as the reader of arguments has keys:
if that is `selector`, or the same word with the long s, the text is read as a list of arguments,
and any other text that is not blank is a selector as a whole. A list that is read has the key
`selector` if that is its first key. With the long s it has the key only if it is given once more,
and without it there is no field. -/
theorem compileField_by_leadingKey (text : String) :
    let stripped := trim text.toList
    (stripped ≠ [] → (compileField text = asArguments stripped ↔ ListsArguments stripped) ∧
      (compileField text = .ok (asSelector stripped) ↔ ¬ ListsArguments stripped)) ∧
    (stripped = [] → compileField text = .error (Fault.selectorMissing.at text.toList)) ∧
    ∀ args, parseArguments stripped = .ok args →
      (leadingKey? stripped = some "selector".toList →
        ∃ value, args.get? "selector" = some value) ∧
      (leadingKey? stripped = some longKey → args.get? "selector" = none →
        compileField text = .error (Fault.selectorMissing.at stripped)) := by
  intro stripped
  have listed (lists : ListsArguments stripped) : compileField text = asArguments stripped :=
    if_pos (isArgumentText_iff.mpr lists)
  have bare (given : stripped ≠ []) (other : ¬ ListsArguments stripped) :
      compileField text = .ok (asSelector stripped) := by
    have notListed : ¬ isArgumentText stripped = true := fun lists =>
      other (isArgumentText_iff.mp lists)
    have notEmpty : ¬ stripped.isEmpty = true := fun empty => given (List.isEmpty_iff.mp empty)
    exact (if_neg notListed).trans (if_neg notEmpty)
  refine ⟨fun given => ⟨⟨?_, listed⟩, ?_, bare given⟩, ?_, fun args parsed => ⟨?_, ?_⟩⟩
  · intro same
    by_contra other
    exact asArguments_ne_asSelector stripped (same.symm.trans (bare given other))
  · intro same lists
    exact asArguments_ne_asSelector stripped ((listed lists).symm.trans same)
  · intro empty
    have noKey : isArgumentText stripped = false := by
      rw [empty]
      rfl
    have isEmpty : stripped.isEmpty = true := List.isEmpty_iff.mpr empty
    exact (if_neg (ne_true_of_eq_false noKey)).trans (if_pos isEmpty)
  · intro leads
    obtain ⟨value, more, rfl⟩ := exists_cons_of_leadingKey? leads parsed
    exact exists_get?_of_mem List.mem_cons_self
  · intro leads missing
    rw [listed (.inr leads), asArguments_of_no_selector parsed missing]

/-- With the long s a text is read as a list of arguments though its first key is not `selector`. -/
theorem compileField_longS :
    let text := "ſelector: a"
    trim text.toList ≠ [] ∧ leadingKey? (trim text.toList) ≠ some "selector".toList ∧
      compileField text ≠ .ok (asSelector (trim text.toList)) ∧
      compileField text = .error ⟨text, "Missing selector string"⟩ := by
  intro text
  have fails : compileField text = .error ⟨text, "Missing selector string"⟩ := by decide
  refine ⟨by decide, by decide, ?_, fails⟩
  rw [fails]
  exact nofun

end PageHarvest.Path
