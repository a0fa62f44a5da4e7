import PageHarvest.Proofs.Path.RoundTrip
import PageHarvest.Proofs.Path.Stepwise
import PageHarvest.Proofs.Text.Words
import PageHarvest.Proofs.Traverse

/-! # What selections and locations may look like

A selection is a number or `ALL`, a location one of four words, and two of the words may carry a
text between brackets. The reader of these two words looks at the beginning of a value and at its
brackets, so it lets pass what stands between the word and its bracket and what stands behind the
last one. Whether a value is read is told here by its form, once for the words as they should be
written and once for all that is let pass.
-/

namespace PageHarvest.Path

open Text

/-! ## Brackets -/

private theorem append_of_cutLast {c : Char} {s before after : List Char}
    (found : cutLast c s = some (before, after)) : s = before ++ c :: after ∧ c ∉ after := by
  obtain ⟨⟨back, front⟩, cutHere, same⟩ := Option.map_eq_some_iff.mp found
  cases same
  have whole := append_of_cut cutHere
  have absent := not_infix_of_cut (List.cons_ne_nil _ _) cutHere
  rw [List.singleton_infix_iff] at absent
  constructor
  · rw [← List.reverse_inj, ← whole]
    simp
  · rwa [List.mem_reverse]

/-- The text between brackets stands between the first opening and the last closing one. -/
theorem betweenBrackets_eq_ok_iff {s inner : List Char} :
    betweenBrackets s = .ok inner ↔
      ∃ before behind, s = before ++ '(' :: (inner ++ ')' :: behind) ∧ '(' ∉ before ∧
        ')' ∉ behind := by
  constructor
  · intro found
    rw [betweenBrackets] at found
    split at found
    · cases found
    · next before rest opens =>
      split at found
      · cases found
      · next behind closes =>
        cases found
        obtain ⟨rfl, absent⟩ := append_of_cutLast closes
        have unopened := not_infix_of_cut (List.cons_ne_nil _ _) opens
        rw [List.singleton_infix_iff] at unopened
        refine ⟨before, behind, ?_, unopened, absent⟩
        rw [← append_of_cut opens, List.append_assoc, List.singleton_append]
  · rintro ⟨before, behind, rfl, unopened, unclosed⟩
    simp only [betweenBrackets, cut_append unopened, cutLast_append inner unclosed]

/-- A text that begins with a word and goes on to brackets, whatever stands between the word and the
first opening bracket and behind the last closing one. -/
def LooseCall (word : String) (inner text : List Char) : Prop :=
  ∃ spelling between behind, Spells word spelling ∧ '(' ∉ between ∧ ')' ∉ behind ∧
    text = spelling ++ between ++ '(' :: (inner ++ ')' :: behind)

theorem looseCall_of_writesCall {word : String} {inner text : List Char}
    (call : WritesCall word inner text) : LooseCall word inner text := by
  obtain ⟨spelling, gap, spells, blank, rfl⟩ := call
  have unopened : '(' ∉ gap := fun member => absurd (isBlank_of_mem blank member) (by decide)
  exact ⟨spelling, gap, [], spells, unopened, List.not_mem_nil, rfl⟩

/-- The brackets of a text that begins with a word are those behind the word. -/
theorem looseCall_iff {word : String} (plain : PlainWord word.toList) {inner text : List Char} :
    LooseCall word inner text ↔
      word.toList.isPrefixOf (lower text) = true ∧ betweenBrackets text = .ok inner := by
  rw [isPrefixOf_lower_iff plain, betweenBrackets_eq_ok_iff]
  constructor
  · rintro ⟨spelling, between, behind, spells, unopened, unclosed, rfl⟩
    refine ⟨⟨spelling, _, List.append_assoc _ _ _, spells⟩, spelling ++ between, behind, rfl, ?_,
      unclosed⟩
    rw [List.mem_append, not_or]
    exact ⟨spells.not_mem plain.small rfl, unopened⟩
  · rintro ⟨⟨spelling, rest, rfl, spells⟩, before, behind, same, unopened, unclosed⟩
    have outside : '(' ∉ spelling := spells.not_mem plain.small rfl
    rcases List.append_eq_append_iff.mp same with ⟨between, rfl, rfl⟩ | ⟨more, rfl, cut⟩
    · rw [List.mem_append, not_or] at unopened
      exact ⟨spelling, between, behind, spells, unopened.2, unclosed, by simp⟩
    · cases more with
      | nil =>
        rw [List.nil_append] at cut
        exact ⟨before, [], behind, by simpa using spells, List.not_mem_nil, unclosed, by simp [cut]⟩
      | cons c more =>
        obtain ⟨rfl, -⟩ := List.cons_eq_cons.mp cut
        simp at outside

/-! ## Forms of values -/

/-- A way to write a text between brackets behind a word. -/
abbrev CallForm := (word : String) → (inner text : List Char) → Prop

/-- The values of a selection and what they select: none or an empty one, a number, the word `ALL`,
or the word with a delimiter. -/
inductive GivesSelection (Call : CallForm) : Option (List Char) → Selection → Prop
  | unsaid : GivesSelection Call none (.single 0)
  | empty : GivesSelection Call (some []) (.single 0)
  | index {value : List Char} {index : Nat} (read : readInteger? value = some (Int.ofNat index)) :
      GivesSelection Call (some value) (.single index)
  | all {value : List Char} (spells : Spells "all" value) :
      GivesSelection Call (some value) (.all "")
  | joined {value delimiter : List Char} (call : Call "all" delimiter value) :
      GivesSelection Call (some value) (.all (String.ofList delimiter))

/-- The values of a location and what they read: one of the words `TEXT`, `ID` and `CLASS`, or
`ATTR` with a name that is not blank. -/
inductive GivesTarget (Call : CallForm) : Option (List Char) → Target → Prop
  | text {value : List Char} (spells : Spells "text" value) : GivesTarget Call (some value) .text
  | id {value : List Char} (spells : Spells "id" value) : GivesTarget Call (some value) .id
  | classes {value : List Char} (spells : Spells "class" value) :
      GivesTarget Call (some value) .classes
  | named {value inner : List Char} (call : Call "attr" inner value) (given : trim inner ≠ []) :
      GivesTarget Call (some value) (.attribute (String.ofList (lower (trim inner))))

/-! ## Selections -/

private theorem asksForAll_iff {raw : List Char} :
    asksForAll raw = true ↔ ∃ spelling rest, raw = spelling ++ rest ∧ Spells "all" spelling :=
  isPrefixOf_lower_iff (by decide) raw

private theorem parseIndex_eq_ok_iff {raw : List Char} {index : Nat} :
    parseIndex raw = .ok index ↔ readInteger? raw = some (Int.ofNat index) := by
  rw [parseIndex]
  split
  · next unread => simp [unread]
  · next other read => rw [read, Except.ok.injEq, Option.some.injEq, Int.ofNat.injEq]
  · next other read => simp [read]

private theorem readInteger?_letter {c : Char} (letter : c.isAlpha = true) (rest : List Char) :
    readInteger? (c :: rest) = none := by
  have bounds := toNat_of_isAlpha letter
  have notDigit : c.isDigit = false := by
    rw [Bool.eq_false_iff]
    intro digit
    have := toNat_of_isDigit digit
    omega
  have noGap : c ≠ '_' := by rintro rfl; exact absurd letter (by decide)
  have noValue : digitValue? c = none := by
    rw [digitValue?, if_pos (by omega), notDigit]
    rfl
  have unread : readDigits 0 0 false (c :: rest) = none := by
    rw [readDigits]
    · rw [noValue]
    · exact noGap
  rw [readInteger?]
  · rw [readNatural?, unread]
    rfl
  · rintro more ⟨⟩
    exact absurd letter (by decide)
  · rintro more ⟨⟩
    exact absurd letter (by decide)

/-- A number does not begin with a word. -/
theorem asksForAll_of_readInteger? {raw : List Char} {n : Int} (read : readInteger? raw = some n) :
    asksForAll raw = false := by
  rw [Bool.eq_false_iff]
  intro asks
  obtain ⟨spelling, rest, rfl, spells⟩ := asksForAll_iff.mp asks
  obtain ⟨c, more, rfl⟩ := List.exists_cons_of_ne_nil (spells.ne_nil (by decide))
  rw [List.cons_append, readInteger?_letter (spells.isAlpha (by decide) List.mem_cons_self)] at read
  cases read

/-- What a value that is not empty selects. -/
def selectionOfValue (raw : List Char) : Except Fault Selection :=
  if asksForAll raw then
    if lower raw = "all".toList then .ok (.all "")
    else (betweenBrackets raw).map fun delimiter => .all (String.ofList delimiter)
  else (parseIndex raw).map .single

/-- A selection is read exactly as its grammar says. -/
private theorem selectionOfValue_eq_ok_iff {raw : List Char} (given : raw ≠ [])
    {selection : Selection} :
    selectionOfValue raw = .ok selection ↔ GivesSelection LooseCall (some raw) selection := by
  have plain : PlainWord "all".toList := by decide
  rw [selectionOfValue]
  constructor
  · intro reads
    split at reads
    · next asks =>
      split at reads
      · next word =>
        cases reads
        exact .all ((lower_eq_iff_spells plain raw).mp word)
      · obtain ⟨delimiter, between, rfl⟩ := exists_of_map_eq_ok reads
        exact .joined ((looseCall_iff plain).mpr ⟨asks, between⟩)
    · obtain ⟨index, number, rfl⟩ := exists_of_map_eq_ok reads
      exact .index (parseIndex_eq_ok_iff.mp number)
  · intro gives
    cases gives with
    | empty => exact absurd rfl given
    | index read =>
      rw [asksForAll_of_readInteger? read, parseIndex_eq_ok_iff.mpr read]
      rfl
    | all spells =>
      have asks : asksForAll raw = true := asksForAll_iff.mpr ⟨raw, [], by simp, spells⟩
      rw [if_pos asks, if_pos ((lower_eq_iff_spells plain raw).mpr spells)]
    | joined call =>
      obtain ⟨asks, between⟩ : asksForAll raw = true ∧ _ := (looseCall_iff plain).mp call
      have longer : lower raw ≠ "all".toList := by
        rw [Ne, lower_eq_iff_spells plain]
        intro spells
        obtain ⟨before, behind, rfl, -, -⟩ := betweenBrackets_eq_ok_iff.mp between
        exact spells.not_mem plain.small (c := '(') rfl (by simp)
      rw [if_pos asks, if_neg longer, between]
      rfl

private theorem not_looseCall_nil (word : String) (inner : List Char) :
    ¬ LooseCall word inner [] := by
  rintro ⟨spelling, between, behind, -, -, -, same⟩
  simp at same

private theorem givesSelection_empty_iff {selection : Selection} :
    GivesSelection LooseCall (some []) selection ↔ selection = .single 0 := by
  constructor
  · intro gives
    cases gives with
    | empty => rfl
    | index read => exact absurd read (by simp [readInteger?, readNatural?, readDigits])
    | all spells => exact absurd rfl (spells.ne_nil (by decide))
    | joined call => exact absurd call (not_looseCall_nil _ _)
  · rintro rfl
    exact .empty

/-- A reading step reads its selection just if the value has one of the forms. -/
theorem selectionOf_eq_ok_iff {args : Arguments} {selection : Selection} :
    selectionOf args = .ok selection ↔
      GivesSelection LooseCall (args.get? "select") selection := by
  rw [selectionOf]
  split
  · next unsaid =>
    rw [unsaid]
    constructor
    · rintro ⟨⟩
      exact .unsaid
    · rintro ⟨⟩
      rfl
  · next empty =>
    rw [empty, givesSelection_empty_iff, Except.ok.injEq, eq_comm]
  · next raw given found =>
    rw [found]
    exact selectionOfValue_eq_ok_iff given

/-- A moving step takes the match at a place, so it has no use for `ALL`. -/
theorem indexOf_eq_ok_iff {args : Arguments} {index : Nat} :
    indexOf args = .ok index ↔
      GivesSelection LooseCall (args.get? "select") (.single index) := by
  rw [indexOf]
  split
  · next unsaid =>
    rw [unsaid]
    constructor
    · rintro ⟨⟩
      exact .unsaid
    · rintro ⟨⟩
      rfl
  · next empty =>
    rw [empty, givesSelection_empty_iff, Except.ok.injEq, Selection.single.injEq, eq_comm]
  · next raw given found =>
    rw [found, ← selectionOfValue_eq_ok_iff given, selectionOfValue]
    by_cases asks : asksForAll raw = true
    · rw [if_pos asks, if_pos asks]
      constructor
      · intro refused
        cases refused
      · intro reads
        split at reads
        · cases reads
        · obtain ⟨delimiter, -, same⟩ := exists_of_map_eq_ok reads
          cases same
    · rw [if_neg asks, if_neg asks]
      constructor
      · intro reads
        rw [reads]
        rfl
      · intro reads
        obtain ⟨place, found, same⟩ := exists_of_map_eq_ok reads
        cases same
        exact found

/-! ## Locations -/

/-- The attribute that a text between brackets names. -/
def attributeOf (inner : List Char) : Except Fault Target :=
  match lower (trim inner) with
  | [] => .error .attributeMissing
  | name => .ok (.attribute (String.ofList name))

private theorem parseLocation_eq (raw : List Char) : parseLocation raw =
    if lower raw = "text".toList then .ok .text
    else if "attr".toList.isPrefixOf (lower raw) then betweenBrackets raw >>= attributeOf
    else if lower raw = "id".toList then .ok .id
    else if lower raw = "class".toList then .ok .classes
    else .error .locationInvalid := by
  simp only [parseLocation]
  split
  · rfl
  · split
    · rfl
    · split
      · rfl
      · split <;> rfl

private theorem attributeOf_eq_ok_iff {inner : List Char} {target : Target} :
    attributeOf inner = .ok target ↔
      trim inner ≠ [] ∧ target = .attribute (String.ofList (lower (trim inner))) := by
  rw [attributeOf]
  split
  · next nothing =>
    have blank : trim inner = [] := by
      by_contra given
      exact lowerAfter_ne_nil [] given nothing
    simp [blank]
  · next given =>
    have named : trim inner ≠ [] := by
      intro blank
      rw [blank] at given
      exact given rfl
    simp [named, eq_comm]

/-- A location is read exactly as its grammar says. -/
private theorem parseLocation_eq_ok_iff {raw : List Char} {target : Target} :
    parseLocation raw = .ok target ↔ GivesTarget LooseCall (some raw) target := by
  have attr {inner : List Char} : LooseCall "attr" inner raw ↔
      "attr".toList.isPrefixOf (lower raw) = true ∧ betweenBrackets raw = .ok inner :=
    looseCall_iff (by decide)
  have text : lower raw = "text".toList ↔ Spells "text" raw := lower_eq_iff_spells (by decide) raw
  have id : lower raw = "id".toList ↔ Spells "id" raw := lower_eq_iff_spells (by decide) raw
  have classes : lower raw = "class".toList ↔ Spells "class" raw :=
    lower_eq_iff_spells (by decide) raw
  rw [parseLocation_eq]
  constructor
  · intro reads
    split at reads
    · next word =>
      cases reads
      exact .text (text.mp word)
    · split at reads
      · next begins =>
        obtain ⟨inner, between, reads⟩ := exists_of_bind_eq_ok reads
        obtain ⟨given, rfl⟩ := attributeOf_eq_ok_iff.mp reads
        exact .named (attr.mpr ⟨begins, between⟩) given
      · split at reads
        · next word =>
          cases reads
          exact .id (id.mp word)
        · split at reads
          · next word =>
            cases reads
            exact .classes (classes.mp word)
          · cases reads
  · intro gives
    cases gives with
    | text spells => rw [if_pos (text.mpr spells)]
    | id spells =>
      rw [id.mpr spells]
      rfl
    | classes spells =>
      rw [classes.mpr spells]
      rfl
    | named call given =>
      obtain ⟨begins, between⟩ := attr.mp call
      have noText : lower raw ≠ "text".toList := by
        intro same
        rw [same] at begins
        exact absurd begins (by decide)
      rw [if_neg noText, if_pos begins, between]
      exact attributeOf_eq_ok_iff.mpr ⟨given, rfl⟩

private theorem not_givesTarget_none {target : Target} : ¬ GivesTarget LooseCall none target := by
  intro gives
  cases gives

private theorem not_givesTarget_empty {target : Target} :
    ¬ GivesTarget LooseCall (some []) target := by
  intro gives
  cases gives with
  | text spells | id spells | classes spells => exact spells.ne_nil (by decide) rfl
  | named call => exact not_looseCall_nil _ _ call

/-- A reading step reads its location just if the value has one of the forms. -/
theorem locationOf_eq_ok_iff {args : Arguments} {target : Target} :
    locationOf args = .ok target ↔ GivesTarget LooseCall (args.get? "loc") target := by
  rw [locationOf, required]
  split
  · next missing =>
    rw [missing]
    refine iff_of_false ?_ not_givesTarget_none
    intro refused
    cases refused
  · next empty =>
    rw [empty]
    refine iff_of_false ?_ not_givesTarget_empty
    intro refused
    cases refused
  · next raw given found =>
    rw [found]
    exact parseLocation_eq_ok_iff

end PageHarvest.Path
