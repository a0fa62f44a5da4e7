import PageHarvest.Proofs.FieldMap
import PageHarvest.Proofs.Path.Written

/-! # Reading written arguments

The brackets of a written step and the commas and colons between them are found again where they
were put: what stands in a value can neither break a step apart nor end its arguments. Every key
then has its value, in whatever order the arguments were written.
-/

namespace PageHarvest.Path

open Text

/-! ## Texts without a step separator -/

theorem unbroken_of_not_mem {s : List Char} (absent : '-' ∉ s) : Unbroken s :=
  fun inside => absent (inside.subset (List.mem_cons_self ..))

private theorem unbroken_of_isBlankText {gap : List Char} (blank : isBlankText gap = true) :
    Unbroken gap :=
  unbroken_of_not_mem fun member => absurd (isBlank_of_mem blank member) (by decide)

theorem Unbroken.append_cons {left right : List Char} {c : Char} (inLeft : Unbroken left)
    (inRight : Unbroken right) (opens : c ≠ '-') (closes : c ≠ '>') :
    Unbroken (left ++ c :: right) := by
  have single : Unbroken ([c] ++ right) := not_infix_pair_append
    (unbroken_of_not_mem (by simpa using opens.symm)) inRight (.inl (by simpa using opens))
  exact not_infix_pair_append inLeft single (.inr (by simpa using closes))

theorem Unbroken.padded {core text : List Char} (unbroken : Unbroken core)
    (padded : Padded core text) : Unbroken text := by
  obtain ⟨front, back, blankFront, blankBack, rfl⟩ := padded
  have noDash : '-' ∉ front.getLast? := fun last =>
    absurd (isBlank_of_mem blankFront (List.mem_of_mem_getLast? last)) (by decide)
  have noAngle : '>' ∉ back.head? := fun first =>
    absurd (isBlank_of_mem blankBack (List.mem_of_mem_head? first)) (by decide)
  exact not_infix_pair_append
    (not_infix_pair_append (unbroken_of_isBlankText blankFront) unbroken (.inl noDash))
    (unbroken_of_isBlankText blankBack) (.inr noAngle)

private theorem unbroken_intercalate {parts : List (List Char)}
    (unbroken : ∀ part ∈ parts, Unbroken part) : Unbroken ([','].intercalate parts) := by
  induction parts with
  | nil => exact unbroken_of_not_mem (by simp)
  | cons part rest ih =>
    have tail := ih fun other member => unbroken other (List.mem_cons_of_mem _ member)
    have head := unbroken part (List.mem_cons_self ..)
    cases rest with
    | nil => rwa [List.intercalate_singleton]
    | cons next more =>
      rw [List.intercalate_cons_cons, List.append_assoc]
      exact head.append_cons tail (by decide) (by decide)

/-! ## Words with brackets -/

section Call

variable {word : String} {inner text : List Char}

private theorem not_mem_of_spells {spelling gap : List Char} (small : word.toList.all Char.isLower)
    (spells : Spells word spelling) (blank : isBlankText gap = true) {c : Char}
    (noLetter : c.isAlpha = false) (noBlank : isBlank c = false) : c ∉ spelling ++ gap := by
  intro member
  rcases List.mem_append.mp member with inWord | inGap
  · exact spells.not_mem small noLetter inWord
  · exact absurd (isBlank_of_mem blank inGap) (by simp [noBlank])

/-- The brackets of a call are found again. -/
theorem betweenBrackets_of_writesCall (small : word.toList.all Char.isLower)
    (call : WritesCall word inner text) : betweenBrackets text = .ok inner := by
  obtain ⟨spelling, gap, spells, blank, rfl⟩ := call
  have absent := not_mem_of_spells small spells blank (c := '(') rfl rfl
  have closed : cutLast ')' (inner ++ [')']) = some (inner, []) := cutLast_append inner (by simp)
  simp only [betweenBrackets, cut_append absent, closed]

/-- The word of a call stands before the first bracket. -/
theorem keywordText_of_writesCall (small : word.toList.all Char.isLower)
    (call : WritesCall word inner text) : keywordText text = word.toList := by
  obtain ⟨spelling, gap, spells, blank, rfl⟩ := call
  have absent := not_mem_of_spells small spells blank (c := '(') rfl rfl
  have trimmed : trim (spelling ++ gap) = spelling :=
    trim_of_padded (spells.unpadded small) ⟨[], gap, rfl, blank, rfl⟩
  rw [keywordText, cut_append absent]
  exact (congrArg lower trimmed).trans (spells.lower_eq small)

theorem WritesCall.unbroken (small : word.toList.all Char.isLower)
    (call : WritesCall word inner text) (unbroken : Unbroken inner) : Unbroken text := by
  obtain ⟨spelling, gap, spells, blank, rfl⟩ := call
  have front := unbroken_of_not_mem (not_mem_of_spells small spells blank (c := '-') rfl rfl)
  have back : Unbroken (inner ++ [')']) :=
    unbroken.append_cons (unbroken_of_not_mem (by simp)) (by decide) (by decide)
  exact front.append_cons back (by decide) (by decide)

theorem WritesCall.passes (small : word.toList.all Char.isLower)
    (call : WritesCall word inner text) (passes : Passes 1 inner 1) : Passes 0 text 0 := by
  obtain ⟨spelling, gap, spells, blank, rfl⟩ := call
  have inWord := passes_of_letters (fun _ member => spells.isAlpha small member) 0
  have inBrackets : Passes 0 ('(' :: (inner ++ [')'])) 0 :=
    ⟨by decide, passes.append ⟨by decide, rfl⟩⟩
  exact (inWord.append (passes_of_isBlankText blank 0)).append inBrackets

theorem WritesCall.unpadded (small : word.toList.all Char.isLower) (given : word.toList ≠ [])
    (call : WritesCall word inner text) : Unpadded text := by
  obtain ⟨spelling, gap, spells, _, rfl⟩ := call
  obtain ⟨c, rest, rfl⟩ := List.exists_cons_of_ne_nil (spells.ne_nil given)
  have first := (spells.unpadded small).1 c rfl
  constructor
  · intro d same
    obtain rfl : c = d := by simpa using same
    exact first
  · intro d same
    obtain rfl : ')' = d := by simpa [List.getLast?_cons, List.getLast?_append] using same
    rfl

end Call

/-! ## Arguments -/

/-- A value that can stand in an argument and is read as itself. -/
structure Placeable (value : List Char) : Prop where
  unbroken : Unbroken value
  unpadded : Unpadded value
  passes : Passes 0 value 0

/-- The keys are words of small letters and each is used once; every value is placeable. -/
structure Suitable (arguments : List (String × List Char)) : Prop where
  small : ∀ argument ∈ arguments, argument.1.toList.all Char.isLower
  distinct : (arguments.map Prod.fst).Nodup
  placeable : ∀ argument ∈ arguments, Placeable argument.2

/-- Every key has the value that the list gives it, and no other key has any. -/
def Arguments.Match (args : Arguments) (arguments : List (String × List Char)) : Prop :=
  ∀ key, args.get? key = arguments.lookup key

section Argument

variable {argument : String × List Char} {text : List Char}

private theorem key_letters {word : String} {spelling key : List Char}
    (small : word.toList.all Char.isLower) (spells : Spells word spelling)
    (padded : Padded spelling key) {c : Char} (member : c ∈ key) :
    c.isAlpha = true ∨ isBlank c = true := by
  obtain ⟨front, back, blankFront, blankBack, rfl⟩ := padded
  rcases List.mem_append.mp member with inside | inBack
  · rcases List.mem_append.mp inside with inFront | inWord
    · exact .inr (isBlank_of_mem blankFront inFront)
    · exact .inl (spells.isAlpha small inWord)
  · exact .inr (isBlank_of_mem blankBack inBack)

private theorem not_mem_key {word : String} {spelling key : List Char}
    (small : word.toList.all Char.isLower) (spells : Spells word spelling)
    (padded : Padded spelling key) {c : Char} (noLetter : c.isAlpha = false)
    (noBlank : isBlank c = false) : c ∉ key := by
  intro member
  rcases key_letters small spells padded member with letter | blank
  · exact absurd letter (by simp [noLetter])
  · exact absurd blank (by simp [noBlank])

/-- An argument is read as its key and its value. -/
theorem parseArgument_of_writes (small : argument.1.toList.all Char.isLower)
    (placeable : Placeable argument.2) (writes : WritesArgument argument text) :
    parseArgument text = .ok (argument.1.toList, argument.2) := by
  obtain ⟨spelling, key, value, spells, paddedKey, paddedValue, rfl⟩ := writes
  have absent := not_mem_key small spells paddedKey (c := ':') rfl rfl
  simp only [parseArgument, cut_append absent, trim_of_padded (spells.unpadded small) paddedKey,
    spells.lower_eq small, trim_of_padded placeable.unpadded paddedValue]

private theorem isBlankText_of_writesArgument (writes : WritesArgument argument text) :
    isBlankText text = false := by
  obtain ⟨_, key, value, _, _, _, rfl⟩ := writes
  refine Bool.eq_false_iff.mpr fun blank => ?_
  exact absurd (isBlank_of_mem blank (c := ':') (by simp)) (by decide)

private theorem WritesArgument.unbroken (small : argument.1.toList.all Char.isLower)
    (placeable : Placeable argument.2) (writes : WritesArgument argument text) :
    Unbroken text := by
  obtain ⟨spelling, key, value, spells, paddedKey, paddedValue, rfl⟩ := writes
  have front := unbroken_of_not_mem (not_mem_key small spells paddedKey (c := '-') rfl rfl)
  exact front.append_cons (placeable.unbroken.padded paddedValue) (by decide) (by decide)

private theorem WritesArgument.passes (small : argument.1.toList.all Char.isLower)
    (placeable : Placeable argument.2) (writes : WritesArgument argument text) :
    Passes 0 text 0 := by
  obtain ⟨spelling, key, value, spells, paddedKey, paddedValue, rfl⟩ := writes
  have inKey : Passes 0 key 0 := passes_of_plain (fun c member => by
    have letters := key_letters small spells paddedKey member
    refine ⟨?_, ?_, ?_⟩ <;> rintro rfl <;> exact absurd letters (by decide)) 0
  obtain ⟨front, back, blankFront, blankBack, rfl⟩ := paddedValue
  have inValue : Passes 0 (front ++ argument.2 ++ back) 0 :=
    ((passes_of_isBlankText blankFront 0).append placeable.passes).append
      (passes_of_isBlankText blankBack 0)
  exact inKey.append ⟨by decide, inValue⟩

end Argument

section Arguments

variable {arguments : List (String × List Char)} {text : List Char}

/-- Looking a key up does not depend on the order of distinct keys. -/
theorem lookup_eq_of_perm {entries others : List (String × List Char)} (perm : entries.Perm others)
    (distinct : (entries.map Prod.fst).Nodup) (key : String) :
    entries.lookup key = others.lookup key := by
  cases found : others.lookup key with
  | none =>
    rw [List.lookup_eq_none_iff] at found ⊢
    exact fun entry member => found entry (perm.mem_iff.mp member)
  | some value =>
    obtain ⟨before, after, rfl, -⟩ := List.lookup_eq_some_iff.mp found
    exact lookup_of_mem distinct (perm.mem_iff.mpr (by simp))

/-- Keys are told apart as texts just as they are as lists of characters. -/
theorem lookup_toList (entries : List (String × List Char)) (key : String) :
    (entries.map fun entry => (entry.1.toList, entry.2)).lookup key.toList =
      entries.lookup key := by
  induction entries with
  | nil => rfl
  | cons entry rest ih =>
    obtain ⟨name, value⟩ := entry
    by_cases same : key = name
    · subst same
      rw [List.map_cons, List.lookup_cons_self, List.lookup_cons_self]
    · have differ : key.toList ≠ name.toList := fun h => same (String.toList_inj.mp h)
      rw [List.map_cons, List.lookup_cons, List.lookup_cons, ih, beq_eq_false_iff_ne.mpr differ,
        beq_eq_false_iff_ne.mpr same]

/-- Arguments that are written part by part are read again. -/
private theorem mapM_parseArgument {ordered : List (String × List Char)} {parts : List (List Char)}
    (small : ∀ argument ∈ ordered, argument.1.toList.all Char.isLower)
    (placeable : ∀ argument ∈ ordered, Placeable argument.2)
    (written : List.Forall₂ WritesArgument ordered parts) :
    (parts.filter fun part => !isBlankText part).mapM parseArgument =
      .ok (ordered.map fun entry => (entry.1.toList, entry.2)) := by
  induction written with
  | nil => rfl
  | @cons argument part ordered parts writes _ ih =>
    have read := parseArgument_of_writes (small argument (List.mem_cons_self ..))
      (placeable argument (List.mem_cons_self ..)) writes
    have tail := ih (fun other member => small other (List.mem_cons_of_mem _ member))
      (fun other member => placeable other (List.mem_cons_of_mem _ member))
    rw [List.filter_cons_of_pos (by simp [isBlankText_of_writesArgument writes]),
      List.mapM_cons, read, tail]
    rfl

private theorem forall_of_forall₂ {ordered : List (String × List Char)} {parts : List (List Char)}
    {p : List Char → Prop} (written : List.Forall₂ WritesArgument ordered parts)
    (each : ∀ argument ∈ ordered, ∀ part, WritesArgument argument part → p part) :
    ∀ part ∈ parts, p part := by
  induction written with
  | nil => simp
  | cons writes _ ih =>
    intro part member
    rcases List.mem_cons.mp member with rfl | later
    · exact each _ (List.mem_cons_self ..) _ writes
    · exact ih (fun other inRest => each other (List.mem_cons_of_mem _ inRest)) part later

/-- Written arguments are all found again, and nothing else is. -/
theorem parseArguments_of_writes (given : arguments ≠ []) (suitable : Suitable arguments)
    (writes : WritesArguments arguments text) :
    ∃ args, parseArguments text = .ok args ∧ args.Match arguments := by
  obtain ⟨ordered, parts, perm, written, rfl⟩ := writes
  have small : ∀ argument ∈ ordered, argument.1.toList.all Char.isLower :=
    fun argument member => suitable.small argument (perm.mem_iff.mp member)
  have placeable : ∀ argument ∈ ordered, Placeable argument.2 :=
    fun argument member => suitable.placeable argument (perm.mem_iff.mp member)
  have passes : ∀ part ∈ parts, Passes 0 part 0 := forall_of_forall₂ written
    fun argument member part writes => writes.passes (small argument member)
      (placeable argument member)
  obtain ⟨part, rest, rfl⟩ : ∃ part rest, parts = part :: rest := by
    cases written with
    | nil => exact absurd perm.symm.eq_nil given
    | cons => exact ⟨_, _, rfl⟩
  have split := splitArguments_intercalate part rest passes
  refine ⟨_, by rw [parseArguments, split, mapM_parseArgument small placeable written], ?_⟩
  intro key
  have distinct : (ordered.reverse.map Prod.fst).Nodup := by
    exact ((ordered.reverse_perm.trans perm).map Prod.fst).nodup_iff.mpr suitable.distinct
  rw [Arguments.get?, ← List.map_reverse, lookup_toList]
  exact lookup_eq_of_perm (ordered.reverse_perm.trans perm) distinct key

theorem WritesArguments.unbroken (suitable : Suitable arguments)
    (writes : WritesArguments arguments text) : Unbroken text := by
  obtain ⟨ordered, parts, perm, written, rfl⟩ := writes
  exact unbroken_intercalate (forall_of_forall₂ written fun argument member part writes =>
    writes.unbroken (suitable.small argument (perm.mem_iff.mp member))
      (suitable.placeable argument (perm.mem_iff.mp member)))

end Arguments

end PageHarvest.Path
