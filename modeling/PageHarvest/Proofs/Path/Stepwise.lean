import PageHarvest.Proofs.Path.Tokens

/-! # Every token counts once

What a later token gives can be seen by putting it behind a sound start: one step, or one
diagnostic about itself. A whole text gives what its tokens give, in their order, and without a
sound start it gives the diagnostics alone. So a broken token can be taken out of a text, and
nothing changes but that its diagnostic is gone.
-/

namespace PageHarvest.Path

open Text

/-! ## Later tokens -/

/-- A token behind a sound start. -/
def afterStart (token : List Char) : String :=
  "START(SELECTOR: x) -> " ++ String.ofList token

/-- What a token adds to the sound start that it stands behind: exactly one step and no diagnostic,
or no step and exactly one diagnostic, which names the token. -/
inductive Adds (token : List Char) : List Step → List Diagnostic → Prop
  | step {step : Step}
    (compiled : compile (afterStart token) .inPlace = (.anchored ⟨"x", 0⟩ [step], [])) :
    Adds token [step] []
  | diagnostic {message : String}
    (compiled : compile (afterStart token) .inPlace =
      (.anchored ⟨"x", 0⟩ [], [⟨String.ofList token, message⟩])) :
    Adds token [] [⟨String.ofList token, message⟩]

/-- Behind a start step a token stands for itself. -/
theorem tokens_afterStart {token : List Char} (isToken : IsToken token) :
    tokens (afterStart token).toList = ["START(SELECTOR: x)".toList, token] := by
  have front : "START(SELECTOR: x) -> ".toList =
      "START(SELECTOR: x) ".toList ++ ['-', '>', ' '] := by decide
  have joined (start : List Char) : start ++ ['-', '>', ' '] ++ token =
      stepSeparator.intercalate [start, ' ' :: token] := by
    simp [stepSeparator_eq, List.intercalate_cons_cons]
  have text : (afterStart token).toList =
      "START(SELECTOR: x) -> ".toList ++ (String.ofList token).toList := String.toList_append
  have padded : Padded token (' ' :: token) := ⟨[' '], [], rfl, rfl, by simp⟩
  have unbroken : ∀ other ∈ ["START(SELECTOR: x) ".toList, ' ' :: token], Unbroken other := by
    rw [List.forall_mem_cons, List.forall_mem_singleton]
    constructor
    · decide
    · exact isToken.unbroken.padded padded
  have first : trim "START(SELECTOR: x) ".toList = "START(SELECTOR: x)".toList := by decide
  have second : trim (' ' :: token) = token := trim_of_padded isToken.unpadded padded
  rw [text, @String.toList_ofList token, front, joined, tokens_joined unbroken, List.map_cons,
    List.map_singleton, first, second]

/-- Behind a sound start a token gives what it always gives. -/
theorem compile_afterStart {token : List Char} (isToken : IsToken token) :
    compile (afterStart token) .inPlace =
      (.anchored ⟨"x", 0⟩ (compileOne token).1, (compileOne token).2) := by
  have start : compileFirst "START(SELECTOR: x)".toList = .ok ⟨"x", 0⟩ := by decide +kernel
  rw [compile_of_tokens (tokens_afterStart isToken), start, compileAll_eq, List.flatMap_singleton,
    List.flatMap_singleton]
  rfl

private theorem adds_compileOne {token : List Char} (isToken : IsToken token) :
    Adds token (compileOne token).1 (compileOne token).2 := by
  have compiled := compile_afterStart isToken
  rw [compileOne] at compiled ⊢
  cases result : compileLater token with
  | ok step =>
    rw [result] at compiled
    exact .step compiled
  | error fault =>
    rw [result] at compiled
    exact .diagnostic compiled

/-- What a token adds is settled by the token. -/
theorem Adds.eq_compileOne {token : List Char} {steps : List Step} {diagnostics : List Diagnostic}
    (isToken : IsToken token) (adds : Adds token steps diagnostics) :
    compileOne token = (steps, diagnostics) := by
  have same := compile_afterStart isToken
  cases adds with
  | step compiled | diagnostic compiled =>
    rw [compiled] at same
    injection same with path others
    injection path with _ steps
    exact Prod.ext steps.symm others.symm

private theorem Adds.length {token : List Char} {steps : List Step} {diagnostics : List Diagnostic}
    (adds : Adds token steps diagnostics) : steps.length + diagnostics.length = 1 := by
  cases adds with
  | step => rfl
  | diagnostic => rfl

/-! ## The first token -/

/-- What the first token gives: a start, or its own diagnostics. A broken start has one; any other
token is no start, and one that would do later in a text is also told what else is wrong with it. -/
inductive Opens (token : List Char) : Except (List Diagnostic) Anchor → Prop
  | sound {start : Anchor} (isStart : keyword? token = some .start)
    (compiled : compile (String.ofList token) .inPlace = (.anchored start [], [])) :
    Opens token (.ok start)
  | broken {message : String} (isStart : keyword? token = some .start)
    (compiled : compile (String.ofList token) .inPlace =
      (.empty, [⟨String.ofList token, message⟩])) :
    Opens token (.error [⟨String.ofList token, message⟩])
  | unknown (unknown : keyword? token = none) :
    Opens token (.error [⟨String.ofList token, "First step must be Start"⟩])
  | misplaced {keyword : Keyword} {steps : List Step} {own : List Diagnostic}
    (isKeyword : keyword? token = some keyword) (notStart : keyword ≠ .start)
    (adds : Adds token steps own) :
    Opens token (.error (⟨String.ofList token, "First step must be Start"⟩ :: own))

/-- The first token is compiled as `Opens` tells. -/
private theorem opens_compileFirst {token : List Char} (isToken : IsToken token) :
    Opens token (compileFirst token) := by
  have split : tokens (String.ofList token).toList = [token] := by
    rw [String.toList_ofList]
    exact tokens_single isToken
  have alone := compile_of_tokens split .inPlace
  have misplaced {keyword : Keyword} (isKeyword : keyword? token = some keyword)
      (notStart : keyword ≠ .start) :
      Opens token (.error (Fault.startExpected.at token :: (compileAll [token]).2)) := by
    have own : (compileAll [token]).2 = (compileOne token).2 := by
      rw [compileAll_eq]
      exact List.flatMap_singleton _ _
    rw [own]
    exact .misplaced isKeyword notStart (adds_compileOne isToken)
  cases isKeyword : keyword? token with
  | none =>
    simp only [compileFirst, isKeyword]
    exact .unknown isKeyword
  | some keyword =>
    cases keyword with
    | start =>
      cases result : compileAnchor token with
      | ok start =>
        simp only [compileFirst, isKeyword, result] at alone ⊢
        exact .sound isKeyword alone
      | error fault =>
        simp only [compileFirst, isKeyword, result] at alone ⊢
        exact .broken isKeyword alone
    | descend | find | populate =>
      simp only [compileFirst, isKeyword]
      exact misplaced isKeyword (by decide)

/-! ## Whole texts -/

/-- What a text compiles to when this is what its first token and its later tokens give. -/
def assembled (opening : Except (List Diagnostic) Anchor)
    (added : List (List Step × List Diagnostic)) : Path × List Diagnostic :=
  match opening with
  | .ok start => (.anchored start (added.flatMap Prod.fst), added.flatMap Prod.snd)
  | .error own => (.empty, own ++ added.flatMap Prod.snd)

/-- A text compiles to what its tokens compile to, put together. -/
theorem compile_eq_assembled {text : String} {first : List Char} {rest : List (List Char)}
    (split : tokens text.toList = first :: rest) :
    compile text .inPlace = assembled (compileFirst first) (rest.map compileOne) := by
  rw [compile_of_tokens split, compileAll_eq]
  cases compileFirst first with
  | ok start => simp only [assembled, placed, List.flatMap_map]
  | error own => simp only [assembled, List.flatMap_map]

private theorem forall₂_adds {list : List (List Char)} (areTokens : ∀ token ∈ list, IsToken token) :
    List.Forall₂ (fun token part => Adds token part.1 part.2) list (list.map compileOne) := by
  rw [List.forall₂_map_right_iff, List.forall₂_same]
  intro token member
  exact adds_compileOne (areTokens token member)

/-- Behind a sound start, every token gives one step or one diagnostic. -/
theorem length_assembled (start : Anchor) {rest : List (List Char)}
    {added : List (List Step × List Diagnostic)}
    (adds : List.Forall₂ (fun token part => Adds token part.1 part.2) rest added) :
    (assembled (.ok start) added).1.length + (assembled (.ok start) added).2.length =
      rest.length + 1 := by
  have total : (added.flatMap Prod.fst).length + (added.flatMap Prod.snd).length =
      rest.length := by
    induction adds with
    | nil => rfl
    | cons first _ ih =>
      have one := first.length
      simp only [List.flatMap_cons, List.length_append, List.length_cons]
      omega
  simp only [assembled, length]
  omega

/-- A token that adds no step is taken out with its diagnostic. -/
theorem compile_without {text : String} {before after : List (List Char)} {piece : List Char}
    {diagnostic : Diagnostic} (placing : Placing) (later : before ≠ [])
    (split : splitAt stepSeparator text.toList = before ++ piece :: after)
    (broken : compileOne (trim piece) = ([], [diagnostic])) :
    ∃ path front back, compile text placing = (path, front ++ diagnostic :: back) ∧
      compile (String.ofList (stepSeparator.intercalate (before ++ after))) placing =
        (path, front ++ back) := by
  obtain ⟨first, others, rfl⟩ := List.exists_cons_of_ne_nil later
  have unbroken : ∀ other ∈ first :: (others ++ after), Unbroken other := by
    intro other member
    have among : other ∈ splitAt stepSeparator text.toList := by
      rw [split]
      rw [← List.cons_append] at member
      rcases List.mem_append.mp member with inFront | behind
      · exact List.mem_append_left _ inFront
      · exact List.mem_append_right _ (List.mem_cons_of_mem _ behind)
    have apart := not_infix_of_mem_splitAt (by decide) among
    rwa [stepSeparator_eq] at apart
  have whole : tokens text.toList =
      trim first :: (others.map trim ++ trim piece :: after.map trim) := by
    rw [tokens, split, List.cons_append, List.map_cons, List.map_append, List.map_cons]
  have short : tokens (String.ofList
      (stepSeparator.intercalate (first :: others ++ after))).toList =
      trim first :: (others.map trim ++ after.map trim) := by
    rw [String.toList_ofList, List.cons_append, tokens_joined unbroken, List.map_cons,
      List.map_append]
  rw [compile_of_tokens whole, compile_of_tokens short]
  simp only [compileAll_eq, List.flatMap_append, List.flatMap_cons, broken, List.nil_append,
    List.singleton_append]
  cases compileFirst (trim first) with
  | ok start => exact ⟨_, _, _, rfl, rfl⟩
  | error own => exact ⟨_, own ++ _, _, by rw [List.append_assoc], by rw [List.append_assoc]⟩

/-- Compiling goes token by token. Put behind a sound start, a later token adds one step or one
diagnostic about itself, and a whole text gives the start and the steps that its tokens add, with
their diagnostics in order, so that there are as many steps and diagnostics as tokens. Without a
sound start the path is empty, and the first token's own diagnostics come before those of the
others. Taking a broken later token out of a text takes its diagnostic away and nothing else. -/
theorem compile_token_by_token (text : String) :
    (∃ first rest opening added,
      tokens text.toList = first :: rest ∧ Opens first opening ∧
      List.Forall₂ (fun token part => Adds token part.1 part.2) rest added ∧
      compile text .inPlace = assembled opening added ∧
      ∀ start, opening = .ok start →
        (compile text .inPlace).1.length + (compile text .inPlace).2.length =
          (tokens text.toList).length) ∧
    ∀ (placing : Placing) (before after : List (List Char)) (piece : List Char)
      (diagnostic : Diagnostic), before ≠ [] →
      splitAt stepSeparator text.toList = before ++ piece :: after →
      Adds (trim piece) [] [diagnostic] →
      ∃ path front back, compile text placing = (path, front ++ diagnostic :: back) ∧
        compile (String.ofList (stepSeparator.intercalate (before ++ after))) placing =
          (path, front ++ back) := by
  constructor
  · obtain ⟨first, rest, split⟩ := exists_tokens text.toList
    have isToken : ∀ token ∈ first :: rest, IsToken token := by
      intro token member
      rw [← split] at member
      exact isToken_of_mem member
    have adds := forall₂_adds fun token member => isToken token (List.mem_cons_of_mem _ member)
    have whole := compile_eq_assembled split
    refine ⟨first, rest, compileFirst first, rest.map compileOne, split,
      opens_compileFirst (isToken first List.mem_cons_self), adds, whole, ?_⟩
    intro start opening
    rw [whole, opening, length_assembled start adds, split, List.length_cons]
  · intro placing before after piece diagnostic later split adds
    have among : trim piece ∈ tokens text.toList := by
      rw [tokens, split]
      exact List.mem_map_of_mem (List.mem_append_right _ List.mem_cons_self)
    exact compile_without placing later split (adds.eq_compileOne (isToken_of_mem among))

/-- Without the step that lacks a location, its diagnostic is gone. -/
theorem compile_token_by_token_without_find :
    let before := ["START(SELECTOR: a) ".toList]
    let piece := " FIND(SELECTOR: b) ".toList
    let after := [" DESCEND(SELECTOR: c)".toList]
    let text := String.ofList (stepSeparator.intercalate (before ++ piece :: after))
    let diagnostic : Diagnostic := ⟨"FIND(SELECTOR: b)", "Missing location"⟩
    before ≠ [] ∧ splitAt stepSeparator text.toList = before ++ piece :: after ∧
      Adds (trim piece) [] [diagnostic] ∧
      ∃ path front back, compile text = (path, front ++ diagnostic :: back) ∧
        compile (String.ofList (stepSeparator.intercalate (before ++ after))) =
          (path, front ++ back) := by
  intro before piece after text diagnostic
  have unbroken : ∀ other ∈ before ++ piece :: after, Unbroken other := by decide
  have split : splitAt stepSeparator text.toList = before ++ piece :: after := by
    rw [String.toList_ofList, stepSeparator_eq]
    exact splitAt_intercalate_pair (by decide) _ _ unbroken
  have isToken : IsToken (trim piece) := ⟨by decide, by decide⟩
  have adds : Adds (trim piece) [] [diagnostic] := by
    have gives : compileOne (trim piece) = ([], [diagnostic]) := by decide +kernel
    have adds := adds_compileOne isToken
    rwa [gives] at adds
  have later : before ≠ [] := by decide
  exact ⟨later, split, adds,
    (compile_token_by_token text).2 .atEnd before after piece diagnostic later split adds⟩

end PageHarvest.Path
