import PageHarvest.Proofs.Path.Accepted
import PageHarvest.Proofs.Path.Splitting
import PageHarvest.Proofs.Path.WellFormed

/-! # Brackets that do not balance

The arguments of a step go from its first opening to its last closing bracket, and nothing counts
the brackets between. So a step whose brackets do not balance is told from its arguments like any
other, and where it passes, a bracket too many hides in an argument or behind the last closing one.
-/

namespace PageHarvest.Path

open Text

/-! ## Balanced texts -/

private theorem Balanced.append {left right : List Char} (first : Balanced left)
    (second : Balanced right) :
    Balanced (left ++ right) where
  opened before part := by
    rw [List.prefix_iff_eq_take.mp part, List.take_append, List.count_append, List.count_append]
    exact Nat.add_le_add (first.opened _ (List.take_prefix _ _))
      (second.opened _ (List.take_prefix _ _))
  closed := by
    rw [List.count_append, List.count_append, first.closed, second.closed]

/-- A text without brackets. -/
theorem balanced_of_not_mem {s : List Char} (unopened : '(' ∉ s) (unclosed : ')' ∉ s) :
    Balanced s where
  opened before part := by
    rw [List.count_eq_zero_of_not_mem fun member => unclosed (part.subset member)]
    exact Nat.zero_le _
  closed := by
    rw [List.count_eq_zero_of_not_mem unclosed, List.count_eq_zero_of_not_mem unopened]

private theorem Balanced.enclosed {inner : List Char} (balanced : Balanced inner) :
    Balanced ('(' :: (inner ++ [')'])) where
  opened before part := by
    rcases List.prefix_cons_iff.mp part with rfl | ⟨more, rfl, inside⟩
    · exact Nat.le_refl _
    · have opened := balanced.opened _ (List.take_prefix more.length inner)
      have last := (List.take_sublist (more.length - inner.length) [')']).count_le ')'
      have once : [')'].count ')' = 1 := by decide
      rw [List.prefix_iff_eq_take.mp inside, List.take_append,
        List.count_cons_of_ne (by decide), List.count_cons_self, List.count_append,
        List.count_append]
      omega
  closed := by
    have closed := balanced.closed
    simp [closed]

private theorem balanced_intercalate {parts : List (List Char)}
    (each : ∀ part ∈ parts, Balanced part) :
    Balanced ([','].intercalate parts) := by
  induction parts with
  | nil => exact balanced_of_not_mem (by decide) (by decide)
  | cons part rest ih =>
    have first := each part List.mem_cons_self
    have others := ih fun other member => each other (List.mem_cons_of_mem _ member)
    cases rest with
    | nil => rwa [List.intercalate_singleton]
    | cons next more =>
      rw [List.intercalate_cons_cons]
      exact (first.append (balanced_of_not_mem (by decide) (by decide))).append others

/-- Brackets that do not balance do not balance in one of the arguments. -/
theorem exists_unbalanced_argument {inner : List Char} (unbalanced : ¬ Balanced inner) :
    ∃ part ∈ splitArguments inner, ¬ Balanced part := by
  by_contra none
  push Not at none
  have joined := balanced_intercalate none
  rw [splitArguments, intercalate_splitArgumentsFrom] at joined
  exact unbalanced joined

/-! ## Values that are read -/

/-- A character that a number cannot be written with. -/
structure NoNumeral (c : Char) : Prop where
  noSign : c ≠ '+' ∧ c ≠ '-'
  noGap : c ≠ '_'
  noDigit : digitValue? c = none

private theorem not_mem_of_readDigits {c : Char} (apart : NoNumeral c) {value count n : Nat}
    {gap : Bool}
    {s : List Char} (read : readDigits value count gap s = some n) : c ∉ s := by
  fun_induction readDigits value count gap s with
  | case1 | case2 => exact List.not_mem_nil
  | case3 => cases read
  | case4 value count gap rest _ ih =>
    rw [List.mem_cons, not_or]
    exact ⟨apart.noGap, ih read⟩
  | case5 value count gap d rest _ digit found ih =>
    rw [List.mem_cons, not_or]
    refine ⟨?_, ih read⟩
    rintro rfl
    rw [apart.noDigit] at found
    cases found
  | case6 => cases read

private theorem not_mem_of_readInteger? {c : Char} (apart : NoNumeral c) {s : List Char} {n : Int}
    (read : readInteger? s = some n) : c ∉ s := by
  unfold readInteger? at read
  split at read
  · obtain ⟨m, digits, -⟩ := Option.map_eq_some_iff.mp read
    rw [List.mem_cons, not_or]
    exact ⟨apart.noSign.1, not_mem_of_readDigits apart digits⟩
  · obtain ⟨m, digits, -⟩ := Option.map_eq_some_iff.mp read
    rw [List.mem_cons, not_or]
    exact ⟨apart.noSign.2, not_mem_of_readDigits apart digits⟩
  · obtain ⟨m, digits, -⟩ := Option.map_eq_some_iff.mp read
    exact not_mem_of_readDigits apart digits

private theorem balanced_of_spells {word : String} (plain : PlainWord word.toList)
    {value : List Char}
    (spells : Spells word value) : Balanced value :=
  balanced_of_not_mem (spells.not_mem plain.small rfl) (spells.not_mem plain.small rfl)

/-- Only a call of `ALL` can be a selection whose brackets do not balance. -/
theorem call_of_givesSelection {value : List Char} {selection : Selection}
    (gives : GivesSelection LooseCall (some value) selection) (unbalanced : ¬ Balanced value) :
    ∃ inner, LooseCall "all" inner value ∧ selection = .all (String.ofList inner) := by
  cases gives with
  | empty => exact absurd (balanced_of_not_mem List.not_mem_nil List.not_mem_nil) unbalanced
  | index read =>
    have opening : NoNumeral '(' := ⟨by decide, by decide, by decide⟩
    have closing : NoNumeral ')' := ⟨by decide, by decide, by decide⟩
    exact absurd (balanced_of_not_mem (not_mem_of_readInteger? opening read)
      (not_mem_of_readInteger? closing read)) unbalanced
  | all spells => exact absurd (balanced_of_spells (by decide) spells) unbalanced
  | joined call => exact ⟨_, call, rfl⟩

/-- Only a call of `ATTR` can be a location whose brackets do not balance. -/
theorem call_of_givesTarget {value : List Char} {target : Target}
    (gives : GivesTarget LooseCall (some value) target) (unbalanced : ¬ Balanced value) :
    ∃ inner, LooseCall "attr" inner value := by
  cases gives with
  | text spells | id spells | classes spells =>
    exact absurd (balanced_of_spells (by decide) spells) unbalanced
  | named call => exact ⟨_, call⟩

/-! ## Keywords -/

private theorem plainWord_spelling (keyword : Keyword) : PlainWord keyword.spelling.toList := by
  cases keyword <;> decide

private theorem keywordText_of_keyword? {token : List Char} {keyword : Keyword}
    (isKeyword : keyword? token = some keyword) :
    keywordText token = keyword.spelling.toList := by
  have found := List.find?_some isKeyword
  exact (beq_iff_eq.mp found).symm

/-- No bracket is closed before the first one of a step is opened. -/
theorem not_mem_of_keyword? {before behind : List Char} {keyword : Keyword}
    (isKeyword : keyword? (before ++ '(' :: behind) = some keyword) (unopened : '(' ∉ before) :
    ')' ∉ before := by
  have word := keywordText_of_keyword? isKeyword
  rw [keywordText, cut_append unopened] at word
  have spells := (lower_eq_iff_spells (plainWord_spelling keyword) (trim before)).mp word
  obtain ⟨front, back, blankFront, blankBack, whole⟩ := padded_trim before
  rw [whole]
  simp only [List.mem_append, not_or]
  refine ⟨⟨?_, spells.not_mem (plainWord_spelling keyword).small rfl⟩, ?_⟩
  · exact fun member => absurd (isBlank_of_mem blankFront member) (by decide)
  · exact fun member => absurd (isBlank_of_mem blankBack member) (by decide)

/-! ## Diagnostics of a step -/

/-- A diagnostic names the step. -/
def Diagnosed (token : List Char) (diagnostics : List Diagnostic) : Prop :=
  ∃ message, ⟨String.ofList token, message⟩ ∈ diagnostics

private theorem diagnosed_append {token : List Char} {left right : List Diagnostic} :
    Diagnosed token (left ++ right) ↔ Diagnosed token left ∨ Diagnosed token right := by
  simp only [Diagnosed, List.mem_append, exists_or]

private theorem diagnosed_at {fault : Fault} {token other : List Char} :
    Diagnosed token [fault.at other] ↔ token = other := by
  constructor
  · rintro ⟨message, member⟩
    have same := List.mem_singleton.mp member
    exact String.ofList_injective (congrArg Diagnostic.step same)
  · rintro rfl
    exact ⟨fault.message, List.mem_singleton_self _⟩

/-- A step is diagnosed exactly if it compiles to no step. -/
private theorem diagnosed_compileOne {token other : List Char} :
    Diagnosed token (compileOne other).2 ↔
      token = other ∧ ∀ step, compileLater token ≠ .ok step := by
  rw [compileOne]
  cases result : compileLater other with
  | ok step =>
    refine iff_of_false ?_ ?_
    · rintro ⟨message, member⟩
      cases member
    · rintro ⟨rfl, fails⟩
      exact fails step result
  | error fault =>
    rw [diagnosed_at]
    refine ⟨?_, And.left⟩
    rintro rfl
    refine ⟨rfl, fun step compiles => ?_⟩
    cases result.symm.trans compiles

/-- A later step is diagnosed just if it does not compile. -/
theorem diagnosed_compileAll {token : List Char} {list : List (List Char)} :
    Diagnosed token (compileAll list).2 ↔
      token ∈ list ∧ ∀ step, compileLater token ≠ .ok step := by
  simp only [compileAll_eq]
  induction list with
  | nil => exact iff_of_false (fun ⟨_, member⟩ => nomatch member) (fun both => nomatch both.1)
  | cons other rest ih =>
    rw [List.flatMap_cons, diagnosed_append, ih, diagnosed_compileOne, List.mem_cons, or_and_right]

/-- The diagnostics of a first step are its own. -/
theorem diagnosed_compileFirst {token first : List Char} {own : List Diagnostic}
    (fails : compileFirst first = .error own) : Diagnosed token own ↔ token = first := by
  rw [compileFirst] at fails
  split at fails
  · cases result : compileAnchor first with
    | ok anchor =>
      rw [result] at fails
      cases fails
    | error fault =>
      rw [result] at fails
      cases fails
      exact diagnosed_at
  · cases fails
    exact diagnosed_at
  · cases fails
    rw [← List.singleton_append, diagnosed_append, diagnosed_at, diagnosed_compileAll,
      List.mem_singleton]
    exact or_iff_left_of_imp And.left

/-- A step is diagnosed just if it fails to open the text or fails behind the first step. -/
theorem diagnosed_compile {text : String} {first : List Char} {rest : List (List Char)}
    (split : tokens text.toList = first :: rest) (placing : Placing) {token : List Char} :
    Diagnosed token (compile text placing).2 ↔
      (token = first ∧ ∀ start, compileFirst token ≠ .ok start) ∨
        (token ∈ rest ∧ ∀ step, compileLater token ≠ .ok step) := by
  rw [compile_of_tokens split]
  cases opening : compileFirst first with
  | ok start =>
    rw [diagnosed_compileAll]
    refine (or_iff_right ?_).symm
    rintro ⟨rfl, fails⟩
    exact fails start opening
  | error own =>
    rw [diagnosed_append, diagnosed_compileFirst opening, diagnosed_compileAll]
    refine or_congr_left ⟨?_, And.left⟩
    rintro rfl
    refine ⟨rfl, fun start opens => ?_⟩
    cases opening.symm.trans opens

/-! ## Steps with brackets -/

/-- Arguments that are all that a step with the keyword needs. -/
inductive Suffices (args : Arguments) : Keyword → Prop
  | start {anchor : Anchor} (moves : GivesAnchor args anchor) : Suffices args .start
  | later {keyword : Keyword} {step : Step} (makes : Makes args keyword step) :
      Suffices args keyword

/-- A step whose arguments can be read and suffice. -/
def Supplied (token : List Char) (keyword : Keyword) : Prop :=
  ∃ args, stepArguments token = .ok args ∧ Suffices args keyword

/-- A start behind the first step, or another step in its place. -/
def Misplaced (text : String) (token : List Char) (keyword : Keyword) : Prop :=
  keyword = .start ∧ token ∈ (tokens text.toList).tail ∨
    keyword ≠ .start ∧ (tokens text.toList).head? = some token

/-- A keyword whose steps read values. -/
def Reads (keyword : Keyword) : Prop := keyword = .find ∨ keyword = .populate

/-- A step with a bracket that is closed, where brackets that do not balance stand in an argument,
or one is opened behind the last closing one. -/
def HidesBracket (token : List Char) : Prop :=
  ∃ before inner behind, token = before ++ '(' :: (inner ++ ')' :: behind) ∧ '(' ∉ before ∧
    ')' ∉ behind ∧ ('(' ∈ behind ∨ ∃ part ∈ splitArguments inner, ¬ Balanced part)

section

variable {token : List Char} {keyword : Keyword}

private theorem compileFirst_ok_iff_supplied (isKeyword : keyword? token = some keyword) :
    (∃ start, compileFirst token = .ok start) ↔ keyword = .start ∧ Supplied token .start := by
  constructor
  · rintro ⟨start, opens⟩
    obtain ⟨isStart, compiles⟩ := compileFirst_eq_ok_iff.mp opens
    obtain ⟨args, arguments, moves⟩ := compileAnchor_eq_ok_iff.mp compiles
    exact ⟨Option.some.inj (isKeyword.symm.trans isStart), args, arguments, .start moves⟩
  · rintro ⟨rfl, args, arguments, enough⟩
    cases enough with
    | start moves =>
      exact ⟨_, compileFirst_eq_ok_iff.mpr
        ⟨isKeyword, compileAnchor_eq_ok_iff.mpr ⟨args, arguments, moves⟩⟩⟩
    | later makes => cases makes

private theorem compileLater_ok_iff_supplied (isKeyword : keyword? token = some keyword) :
    (∃ step, compileLater token = .ok step) ↔ keyword ≠ .start ∧ Supplied token keyword := by
  constructor
  · rintro ⟨step, compiles⟩
    obtain ⟨other, args, same, arguments, makes⟩ := compileLater_eq_ok_iff.mp compiles
    obtain rfl := Option.some.inj (isKeyword.symm.trans same)
    refine ⟨?_, args, arguments, .later makes⟩
    rintro rfl
    cases makes
  · rintro ⟨later, args, arguments, enough⟩
    cases enough with
    | start => exact absurd rfl later
    | later makes => exact ⟨_, compileLater_eq_ok_iff.mpr ⟨_, args, isKeyword, arguments, makes⟩⟩

/-- A step with a keyword is diagnosed just if it is misplaced or its arguments fall short. -/
theorem diagnosed_iff {text : String} (member : token ∈ tokens text.toList)
    (isKeyword : keyword? token = some keyword) (placing : Placing) :
    Diagnosed token (compile text placing).2 ↔
      Misplaced text token keyword ∨ ¬ Supplied token keyword := by
  obtain ⟨first, rest, split⟩ := exists_tokens text.toList
  have opens : (∀ start, compileFirst token ≠ .ok start) ↔
      keyword ≠ .start ∨ ¬ Supplied token keyword := by
    rw [← not_exists, compileFirst_ok_iff_supplied isKeyword, not_and_or]
    by_cases isStart : keyword = .start <;> simp [isStart]
  have follows : (∀ step, compileLater token ≠ .ok step) ↔
      keyword = .start ∨ ¬ Supplied token keyword := by
    rw [← not_exists, compileLater_ok_iff_supplied isKeyword, not_and_or, not_not]
  rw [split, List.mem_cons] at member
  rw [diagnosed_compile split, Misplaced, split, List.tail_cons, List.head?_cons,
    Option.some.injEq, eq_comm (a := first), opens, follows]
  tauto

/-- A step whose bracket is not closed has no arguments, and one that is closed and balances in
every argument balances as a whole. -/
theorem hidesBracket_of_supplied (isKeyword : keyword? token = some keyword)
    (supplied : Supplied token keyword) (unbalanced : ¬ Balanced token) : HidesBracket token := by
  obtain ⟨args, arguments, -⟩ := supplied
  obtain ⟨inner, between, -⟩ := exists_of_bind_eq_ok arguments
  obtain ⟨before, behind, rfl, unopened, unclosed⟩ := betweenBrackets_eq_ok_iff.mp between
  refine ⟨before, inner, behind, rfl, unopened, unclosed, ?_⟩
  by_contra shown
  rw [not_or] at shown
  have balanced : Balanced inner := by
    by_contra broken
    exact shown.2 (exists_unbalanced_argument broken)
  have front := balanced_of_not_mem unopened (not_mem_of_keyword? isKeyword unopened)
  have whole := front.append (balanced.enclosed.append (balanced_of_not_mem shown.1 unclosed))
  have same : before ++ ('(' :: (inner ++ [')']) ++ behind) =
      before ++ '(' :: (inner ++ ')' :: behind) := by simp
  exact unbalanced (same ▸ whole)

/-- Of the selections that suffice, only those of reading steps can have brackets that do not
balance, and they are calls of `ALL`. -/
theorem Suffices.call_of_select {args : Arguments} {value : List Char}
    (enough : Suffices args keyword) (select : args.get? "select" = some value)
    (unbalanced : ¬ Balanced value) : Reads keyword ∧ ∃ inner, LooseCall "all" inner value := by
  have moving {anchor : Anchor} (moves : GivesAnchor args anchor) : False := by
    have gives := moves.selects
    rw [select] at gives
    obtain ⟨inner, -, single⟩ := call_of_givesSelection gives unbalanced
    cases single
  have reading {field : FieldSpec} (gives : GivesField args field) :
      ∃ inner, LooseCall "all" inner value := by
    have selection := gives.selects
    rw [select] at selection
    obtain ⟨inner, call, -⟩ := call_of_givesSelection selection unbalanced
    exact ⟨inner, call⟩
  cases enough with
  | start moves => exact (moving moves).elim
  | later makes =>
    cases makes with
    | descend moves => exact (moving moves).elim
    | find gives => exact ⟨.inl rfl, reading gives⟩
    | populate named gives => exact ⟨.inr rfl, reading gives⟩

/-- Of the locations that suffice for a reading step, only calls of `ATTR` can have brackets that do
not balance. -/
theorem Suffices.call_of_loc {args : Arguments} {value : List Char}
    (enough : Suffices args keyword) (reads : Reads keyword) (loc : args.get? "loc" = some value)
    (unbalanced : ¬ Balanced value) : ∃ inner, LooseCall "attr" inner value := by
  have reading {field : FieldSpec} (gives : GivesField args field) :
      ∃ inner, LooseCall "attr" inner value := by
    have target := gives.reads
    rw [loc] at target
    exact call_of_givesTarget target unbalanced
  cases enough with
  | start => rcases reads with same | same <;> cases same
  | later makes =>
    cases makes with
    | descend => rcases reads with same | same <;> cases same
    | find gives => exact reading gives
    | populate named gives => exact reading gives

/-- A step that begins with a keyword is diagnosed just if it is misplaced, its arguments cannot be
read, or they do not suffice. So a bracket that is never closed is diagnosed, and a step whose
brackets do not balance passes only with the bracket too many hidden in an argument or behind the
last closing one. A selection or a location that is read hides none, except in a call of `ALL` or
`ATTR` in a reading step. -/
theorem compile_diagnoses_brackets {text : String} (member : token ∈ tokens text.toList)
    (isKeyword : keyword? token = some keyword) (placing : Placing) :
    (Diagnosed token (compile text placing).2 ↔
      Misplaced text token keyword ∨ ¬ Supplied token keyword) ∧
    (¬ Balanced token → Diagnosed token (compile text placing).2 ∨ HidesBracket token) ∧
    ∀ args value, stepArguments token = .ok args → ¬ Balanced value →
      (args.get? "select" = some value → Diagnosed token (compile text placing).2 ∨
        Reads keyword ∧ ∃ inner, LooseCall "all" inner value) ∧
      (args.get? "loc" = some value → Reads keyword → Diagnosed token (compile text placing).2 ∨
        ∃ inner, LooseCall "attr" inner value) := by
  have exactly := diagnosed_iff member isKeyword placing
  by_cases diagnosed : Diagnosed token (compile text placing).2
  · exact ⟨exactly, fun _ => .inl diagnosed, fun _ _ _ _ =>
      ⟨fun _ => .inl diagnosed, fun _ _ => .inl diagnosed⟩⟩
  · have supplied : Supplied token keyword := by
      rw [exactly, not_or, not_not] at diagnosed
      exact diagnosed.2
    refine ⟨exactly,
      fun unbalanced => .inr (hidesBracket_of_supplied isKeyword supplied unbalanced),
      fun args value arguments unbalanced => ?_⟩
    obtain ⟨own, same, enough⟩ := supplied
    obtain rfl := Except.ok.inj (same.symm.trans arguments)
    constructor
    · exact fun select => .inr (enough.call_of_select select unbalanced)
    · exact fun loc reads => .inr (enough.call_of_loc reads loc unbalanced)

end

/-- A start that is not closed at all. -/
theorem compile_diagnoses_brackets_unclosed :
    let text := "START(SELECTOR: a"
    let token := text.toList
    token ∈ tokens text.toList ∧ keyword? token = some .start ∧ ¬ Balanced token ∧
      ¬ HidesBracket token ∧ ∀ placing, Diagnosed token (compile text placing).2 := by
  intro text token
  have isToken : IsToken token := ⟨by decide, by decide⟩
  have member : token ∈ tokens text.toList := by
    rw [tokens_single isToken]
    exact List.mem_singleton_self _
  have isKeyword : keyword? token = some .start := by decide +kernel
  have unbalanced : ¬ Balanced token := by decide
  have shown : ¬ HidesBracket token := by
    rintro ⟨before, inner, behind, same, -⟩
    have closed : ')' ∈ token := by
      rw [same]
      simp
    exact absurd closed (by decide)
  refine ⟨member, isKeyword, unbalanced, shown, fun placing => ?_⟩
  exact ((compile_diagnoses_brackets member isKeyword placing).2.1 unbalanced).resolve_right shown

/-- The bracket that closes part of a selector closes the step, and nothing is diagnosed. -/
theorem compile_unclosedSelector :
    let text := "START(SELECTOR: a:not(.b)"
    let token := text.toList
    token ∈ tokens text.toList ∧ keyword? token = some .start ∧ '(' ∈ token ∧ ¬ Balanced token ∧
      ∀ placing, compile text placing = (.anchored ⟨"a:not(.b", 0⟩ [], []) := by
  intro text token
  have isToken : IsToken token := ⟨by decide, by decide⟩
  have split : tokens text.toList = [token] := tokens_single isToken
  have start : compileFirst token = .ok ⟨"a:not(.b", 0⟩ := by decide +kernel
  refine ⟨split ▸ List.mem_singleton_self _, by decide +kernel, by decide, by decide, ?_⟩
  intro placing
  rw [compile_of_tokens split, start]
  cases placing with
  | inPlace => rfl
  | atEnd => rfl

end PageHarvest.Path
