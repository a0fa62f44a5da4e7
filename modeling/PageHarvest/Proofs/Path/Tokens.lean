import PageHarvest.Proofs.Path.Placing
import PageHarvest.Proofs.Path.Reading

/-! # The tokens of a path text

A path text is compiled token by token. The first token gives the start or what is wrong with it,
and every later one is compiled by itself: what a list of later tokens gives is what its parts
give, one after the other.
-/

namespace PageHarvest.Path

open Text

/-! ## Texts and their tokens -/

theorem stepSeparator_eq : stepSeparator = ['-', '>'] := by decide

/-- Every text has a token. -/
theorem exists_tokens (text : List Char) : ∃ first rest, tokens text = first :: rest := by
  obtain ⟨piece, pieces, same⟩ := List.exists_cons_of_ne_nil (splitAt_ne_nil stepSeparator text)
  exact ⟨trim piece, pieces.map trim, by rw [tokens, same, List.map_cons]⟩

/-- A text that can be a token: it is trimmed and cannot be split. -/
structure IsToken (token : List Char) : Prop where
  unbroken : Unbroken token
  unpadded : Unpadded token

/-- What is among the tokens of a text is a token. -/
theorem isToken_of_mem {text token : List Char} (member : token ∈ tokens text) :
    IsToken token := by
  obtain ⟨piece, among, rfl⟩ := List.mem_map.mp member
  have apart : ¬ ['-', '>'] <:+: piece := by
    rw [← stepSeparator_eq]
    exact not_infix_of_mem_splitAt (by decide) among
  constructor
  · intro inside
    exact apart (inside.trans (isInfix_trim piece))
  · exact unpadded_trim piece

/-- Joined pieces are taken apart again and trimmed. -/
theorem tokens_joined {piece : List Char} {pieces : List (List Char)}
    (unbroken : ∀ other ∈ piece :: pieces, Unbroken other) :
    tokens (stepSeparator.intercalate (piece :: pieces)) = (piece :: pieces).map trim := by
  rw [tokens, stepSeparator_eq, splitAt_intercalate_pair (by decide) piece pieces unbroken]

theorem tokens_single {token : List Char} (isToken : IsToken token) : tokens token = [token] := by
  have unbroken : ∀ other ∈ [token], Unbroken other := by
    intro other member
    obtain rfl := List.mem_singleton.mp member
    exact isToken.unbroken
  have joined := tokens_joined unbroken
  rw [List.intercalate_singleton] at joined
  rw [joined, List.map_singleton, trim_eq_self isToken.unpadded]

/-! ## Compiling token by token -/

/-- The steps and diagnostics that a later token gives. -/
def compileOne (token : List Char) : List Step × List Diagnostic :=
  match compileLater token with
  | .ok step => ([step], [])
  | .error fault => ([], [fault.at token])

/-- Later tokens are compiled one by one. -/
theorem compileAll_eq (tokens : List (List Char)) :
    compileAll tokens =
      (tokens.flatMap fun token => (compileOne token).1,
        tokens.flatMap fun token => (compileOne token).2) := by
  induction tokens with
  | nil => rfl
  | cons token rest ih =>
    rw [compileAll, List.foldr_cons, ← compileAll, ih, List.flatMap_cons, List.flatMap_cons,
      compileOne]
    cases compileLater token with
    | ok step => rfl
    | error fault => rfl

/-- The path of a start and later steps. -/
def placed (placing : Placing) (start : Anchor) (steps : List Step) : Path :=
  match placing with
  | .inPlace => .anchored start steps
  | .atEnd => .anchored start (mergePopulates steps)

/-- What a text compiles to, by what its tokens give. -/
theorem compile_of_tokens {text : String} {first : List Char} {rest : List (List Char)}
    (split : tokens text.toList = first :: rest) (placing : Placing) :
    compile text placing = match compileFirst first with
      | .error broken => (.empty, broken ++ (compileAll rest).2)
      | .ok start => (placed placing start (compileAll rest).1, (compileAll rest).2) := by
  simp only [compile, split]
  cases compileFirst first with
  | error broken => rfl
  | ok start =>
    cases placing with
    | atEnd => rfl
    | inPlace => rfl

/-- A text compiles to the same path either way, up to gathering its populate steps. -/
theorem compile_atEnd (text : String) :
    compile text .atEnd = ((compile text .inPlace).1.gathered, (compile text .inPlace).2) := by
  obtain ⟨first, rest, split⟩ := exists_tokens text.toList
  rw [compile_of_tokens split, compile_of_tokens split]
  cases compileFirst first with
  | error broken => rfl
  | ok start => simp only [placed, anchored_mergePopulates]

end PageHarvest.Path
