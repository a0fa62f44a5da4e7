import PageHarvest.Proofs.Console.Showing

/-! # Tags in markup that is put together

Escaping takes the force of every tag of a text, but it looks at that text alone. A text that ends
inside what may be a tag leaves it open, and where escaped texts are joined, the text behind may end
it. So joined markup holds a tag exactly where a text leaves one open and the next bracket behind it
is a closing one.
-/

namespace PageHarvest.Console

open Text

/-! ## Tags that count -/

/-- Whether a tag that is not to be shown stands in markup with backslashes in front. -/
def holdsTag (slashes : Nat) : List Char → Bool
  | [] => false
  | c :: rest =>
    if c = '\\' then holdsTag (slashes + 1) rest
    else c = '[' && (tag? rest).isSome && slashes % 2 = 0 || holdsTag 0 rest

private theorem holdsTag_backslash (slashes : Nat) (rest : List Char) :
    holdsTag slashes ('\\' :: rest) = holdsTag (slashes + 1) rest := by
  rw [holdsTag, if_pos rfl]

private theorem holdsTag_bracket (slashes : Nat) (rest : List Char) :
    holdsTag slashes ('[' :: rest) =
      ((tag? rest).isSome && slashes % 2 = 0 || holdsTag 0 rest) := by
  rw [holdsTag, if_neg (by decide), decide_eq_true rfl, Bool.true_and]

theorem holdsTag_char {c : Char} (backslash : c ≠ '\\') (bracket : c ≠ '[') (slashes : Nat)
    (rest : List Char) : holdsTag slashes (c :: rest) = holdsTag 0 rest := by
  rw [holdsTag, if_neg backslash, decide_eq_false bracket, Bool.false_and, Bool.false_and,
    Bool.false_or]

private theorem holdsTag_slashes (count slashes : Nat) (rest : List Char) :
    holdsTag slashes (List.replicate count '\\' ++ rest) = holdsTag (slashes + count) rest := by
  induction count generalizing slashes with
  | zero => rfl
  | succ count ih =>
    rw [List.replicate_succ, List.cons_append, holdsTag_backslash, ih]
    congr 1
    omega

theorem holdsTag_of_bare {text : List Char} (bare : '[' ∉ text) (slashes : Nat) :
    holdsTag slashes text = false := by
  induction text generalizing slashes with
  | nil => rfl
  | cons c rest ih =>
    rw [List.mem_cons, not_or] at bare
    rw [holdsTag]
    split
    · exact ih bare.2 _
    · rw [ih bare.2, decide_eq_false (Ne.symm bare.1)]
      rfl

/-- Text without an opening bracket holds no tag. What follows counts by itself if the text does not
end with a backslash. -/
theorem holdsTag_bare {text : List Char} (bare : '[' ∉ text) (slashes : Nat) {c : Char}
    (backslash : c ≠ '\\') (bracket : c ≠ '[') (rest : List Char) :
    holdsTag slashes (text ++ c :: rest) = holdsTag 0 rest := by
  induction text generalizing slashes with
  | nil => exact holdsTag_char backslash bracket slashes rest
  | cons d text ih =>
    rw [List.mem_cons, not_or] at bare
    by_cases same : d = '\\'
    · subst same
      rw [List.cons_append, holdsTag_backslash, ih bare.2]
    · rw [List.cons_append, holdsTag_char same (Ne.symm bare.1), ih bare.2]

/-- What a tag is read from: its inside, in which no bracket stands, and the bracket behind. -/
theorem append_of_tag? {s inside after : List Char} (read : tag? s = some (inside, after)) :
    s = inside ++ ']' :: after ∧ ∀ c ∈ inside, endsTag c = false := by
  cases s with
  | nil => cases read
  | cons c rest =>
    rw [tag?] at read
    split at read
    · next begins =>
      split at read
      · next tail found =>
        cases read
        constructor
        · rw [List.cons_append, ← found, List.takeWhile_append_dropWhile]
        · rw [List.forall_mem_cons]
          refine ⟨endsTag_of_beginsTag begins, fun d among => ?_⟩
          simpa using List.all_eq_true.mp List.all_takeWhile d among
      · cases read
    · cases read

private theorem not_mem_of_tag? {s inside after : List Char}
    (read : tag? s = some (inside, after)) :
    '[' ∉ inside := by
  intro member
  exact absurd ((append_of_tag? read).2 _ member) (by decide)

/-- Behind a tag, markup holds the tags that stand behind it. -/
theorem holdsTag_of_tag? {rest inside after : List Char}
    (read : tag? rest = some (inside, after)) : holdsTag 0 rest = holdsTag 0 after := by
  rw [(append_of_tag? read).1]
  exact holdsTag_bare (not_mem_of_tag? read) 0 (by decide) (by decide) after

/-- A tag among the pieces of a markup text. -/
def AmongTags (list : List Piece) : Prop := ∃ position inside, Piece.tag position inside ∈ list

private theorem amongTags_append {left right : List Piece} :
    AmongTags (left ++ right) ↔ AmongTags left ∨ AmongTags right := by
  simp only [AmongTags, List.mem_append, exists_or]

private theorem not_amongTags_ofText (text : List Char) : ¬ AmongTags (Piece.ofText text) := by
  rintro ⟨position, inside, member⟩
  rw [Piece.ofText] at member
  split at member
  · cases member
  · cases List.mem_singleton.mp member

private theorem amongTags_ofTag {position slashes : Nat} {inside : List Char} :
    AmongTags (Piece.ofTag position slashes inside) ↔ slashes % 2 = 0 := by
  rw [Piece.ofTag, amongTags_append, or_iff_right (not_amongTags_ofText _)]
  split
  · next odd =>
    refine iff_of_false ?_ (by omega)
    rintro ⟨position, inside, member⟩
    cases List.mem_singleton.mp member
  · exact iff_of_true ⟨_, _, List.mem_singleton_self _⟩ (by omega)

/-- A tag is among the pieces of markup just if the markup holds one. -/
theorem amongTags_piecesFrom {position slashes : Nat} {plain markup : List Char} :
    AmongTags (piecesFrom position plain slashes markup) ↔ holdsTag slashes markup = true := by
  fun_induction piecesFrom position plain slashes markup with
  | case1 => exact iff_of_false (not_amongTags_ofText _) Bool.false_ne_true
  | case2 position plain slashes rest ih => rw [ih, holdsTag_backslash]
  | case3 position plain slashes rest inside after read _ ih =>
    rw [amongTags_append, amongTags_append, or_iff_right (not_amongTags_ofText _),
      amongTags_ofTag, ih, holdsTag_bracket, read, holdsTag_of_tag? read]
    simp
  | case4 position plain slashes rest kept read _ ih =>
    rw [ih, holdsTag_bracket, read]
    rfl
  | case5 position plain slashes c rest backslash kept bracket ih =>
    rw [ih, holdsTag_char backslash bracket]

/-- Pieces without a tag show, and nothing in them has a style. -/
theorem showPieces_of_not_amongTags {list : List Piece} (untagged : ¬ AmongTags list)
    (check : EventCheck) (behind : Nat) :
    ∃ text, showPieces check behind [] list = .ok { text } := by
  induction list generalizing behind with
  | nil => exact ⟨[], rfl⟩
  | cons piece rest ih =>
    have later : ¬ AmongTags rest := fun ⟨position, inside, member⟩ =>
      untagged ⟨position, inside, List.mem_cons_of_mem _ member⟩
    cases piece with
    | text s =>
      obtain ⟨text, shows⟩ := ih later (behind + (shownText s).length)
      rw [showPieces, shows]
      exact ⟨_, rfl⟩
    | tag position inside => exact absurd ⟨position, inside, List.mem_cons_self⟩ untagged

/-- Markup without a tag has a meaning. -/
theorem exists_shownOf {markup : List Char} (untagged : holdsTag 0 markup = false)
    (check : EventCheck) : ∃ text, shownOf check markup = .ok { text } := by
  refine showPieces_of_not_amongTags ?_ check 0
  rw [pieces, amongTags_piecesFrom, untagged]
  exact Bool.false_ne_true

/-! ## Tags left open -/

/-- Whether a tag that is open before a text ends in it: the first bracket is a closing one. -/
def closes (text : List Char) : Bool := (text.dropWhile (!endsTag ·)).head? = some ']'

/-- Whether a text behind an opening bracket begins a tag and does not end it. -/
def opensTag (text : List Char) : Bool := text.head?.any beginsTag && text.all (!endsTag ·)

/-- Whether a text with backslashes in front ends inside what may be a tag, with an even number of
backslashes in front of its bracket. -/
def leavesOpen (slashes : Nat) : List Char → Bool
  | [] => false
  | c :: rest =>
    if c = '\\' then leavesOpen (slashes + 1) rest
    else c = '[' && opensTag rest && slashes % 2 = 0 || leavesOpen 0 rest

private theorem leavesOpen_bare {text : List Char} (bare : '[' ∉ text) (slashes : Nat) {c : Char}
    (backslash : c ≠ '\\') (bracket : c ≠ '[') (rest : List Char) :
    leavesOpen slashes (text ++ c :: rest) = leavesOpen 0 rest := by
  induction text generalizing slashes with
  | nil => simp [leavesOpen, backslash, bracket]
  | cons d text ih =>
    rw [List.mem_cons, not_or] at bare
    rw [List.cons_append, leavesOpen]
    split
    · exact ih bare.2 _
    · simp [Ne.symm bare.1, ih bare.2]

private theorem closes_append (left right : List Char) :
    closes (left ++ right) = if left.all (!endsTag ·) then closes right else closes left := by
  induction left with
  | nil => rfl
  | cons c left ih =>
    rw [closes] at ih ⊢
    cases ends : endsTag c with
    | true => simp [ends, closes]
    | false => simpa [ends, closes] using ih

theorem closes_append_congr (front : List Char) {left right : List Char}
    (same : closes left = closes right) : closes (front ++ left) = closes (front ++ right) := by
  rw [closes_append, closes_append front, same]

theorem closes_cons {c : Char} (ends : endsTag c = false) (rest : List Char) :
    closes (c :: rest) = closes rest := by
  simp [closes, ends]

private theorem closes_slashes (count : Nat) (rest : List Char) :
    closes (List.replicate count '\\' ++ rest) = closes rest := by
  have inside : (List.replicate count '\\').all (!endsTag ·) = true := by
    simp [endsTag]
  rw [closes_append, if_pos inside]

private theorem isSome_tag?_cons (c : Char) (rest : List Char) :
    (tag? (c :: rest)).isSome = (beginsTag c && closes rest) := by
  rw [Bool.eq_iff_iff, Option.isSome_iff_ne_none, Ne, tag?_cons_eq_none]
  simp [closes]

/-- What is no tag becomes one just if it is left open and what follows closes it. -/
theorem isSome_tag?_append {text tail : List Char} (untagged : tag? text = none)
    (apart : tag? tail = none) :
    (tag? (text ++ tail)).isSome = (opensTag text && closes tail) := by
  cases text with
  | nil => simp [opensTag, apart]
  | cons c rest =>
    have none := isSome_tag?_cons c rest
    rw [untagged] at none
    rw [List.cons_append, isSome_tag?_cons, closes_append]
    cases begins : beginsTag c with
    | false => simp [opensTag, begins]
    | true =>
      rw [begins] at none
      have open_ : closes rest = false := by simpa using none.symm
      by_cases inside : rest.all (!endsTag ·) = true
      · simp [opensTag, begins, endsTag_of_beginsTag begins, inside]
      · simp [opensTag, begins, inside, open_]

/-! ## Escaped text -/

/-- Text that does not add to a tag or to backslashes in front of it: backslashes before it do not
count for its tags, and it does not begin like the inside of a tag. -/
structure Apart (tail : List Char) : Prop where
  slashes : ∀ slashes, holdsTag slashes tail = holdsTag 0 tail
  begins : tag? tail = none

theorem apart_nil : Apart [] := ⟨fun _ => rfl, rfl⟩

theorem apart_cons {c : Char} (backslash : c ≠ '\\') (bracket : c ≠ '[')
    (begins : beginsTag c = false) (rest : List Char) : Apart (c :: rest) where
  slashes slashes := by rw [holdsTag_char backslash bracket, holdsTag_char backslash bracket]
  begins := by simp [tag?, begins]

private theorem Apart.backslash {tail : List Char} (apart : Apart tail) : Apart ('\\' :: tail) where
  slashes slashes := by
    rw [holdsTag_backslash, holdsTag_backslash, apart.slashes, apart.slashes (0 + 1)]
  begins := by simp [tag?, beginsTag]

private theorem closes_escapeTags (slashes : Nat) (text tail : List Char) :
    closes (escapeTags slashes text ++ tail) = closes (text ++ tail) := by
  fun_induction escapeTags slashes text with
  | case1 slashes => exact closes_slashes slashes tail
  | case2 slashes rest ih => rw [ih, List.cons_append, closes_cons (by decide)]
  | case3 slashes rest inside after read _ ih =>
    rw [List.append_assoc, List.append_assoc, closes_slashes]
    rfl
  | case4 slashes rest read _ ih =>
    rw [List.append_assoc, closes_slashes]
    rfl
  | case5 slashes c rest _ _ ih =>
    rw [List.append_assoc, closes_slashes, List.cons_append, List.cons_append]
    exact closes_append_congr [c] ih

private theorem head?_escapeTags (slashes : Nat) (text : List Char) :
    (escapeTags (slashes + 1) text).head? = some '\\' := by
  induction text generalizing slashes with
  | nil =>
    rw [escapeTags]
    rfl
  | cons c rest ih =>
    rw [escapeTags]
    split
    · exact ih _
    · split
      · split
        · rfl
        · rfl
      · rfl

/-- Escaped text begins like the inside of a tag just if the text does. -/
theorem isSome_tag?_escapeTags (text tail : List Char) :
    (tag? (escapeTags 0 text ++ tail)).isSome = (tag? (text ++ tail)).isSome := by
  cases text with
  | nil =>
    rw [escapeTags]
    rfl
  | cons c rest =>
    by_cases backslash : c = '\\'
    · subst backslash
      obtain ⟨more, same⟩ := List.head?_eq_some_iff.mp (head?_escapeTags 0 rest)
      rw [escapeTags, if_pos rfl, same, List.cons_append, List.cons_append, isSome_tag?_cons,
        isSome_tag?_cons]
      rfl
    · by_cases bracket : c = '['
      · subst bracket
        rw [escapeTags, if_neg backslash, if_pos rfl]
        split <;> simp [isSome_tag?_cons, beginsTag]
      · rw [escapeTags, if_neg backslash, if_neg bracket]
        simp only [List.replicate_zero, List.nil_append, List.cons_append, isSome_tag?_cons,
          closes_escapeTags]

/-- Escaped text takes part in a tag only if it leaves one open. -/
theorem holdsTag_escapeTags (slashes : Nat) (text : List Char) {tail : List Char}
    (apart : Apart tail) :
    holdsTag 0 (escapeTags slashes text ++ tail) =
      (leavesOpen slashes text && closes tail || holdsTag 0 tail) := by
  fun_induction escapeTags slashes text with
  | case1 slashes =>
    rw [holdsTag_slashes, apart.slashes]
    simp [leavesOpen]
  | case2 slashes rest ih =>
    rw [ih, leavesOpen, if_pos rfl]
  | case3 slashes rest inside after read _ ih =>
    -- the tag is shown, as an odd number of backslashes stands in front of it
    have whole := (append_of_tag? read).1
    have bare := not_mem_of_tag? read
    have ended : opensTag rest = false := by simp [whole, opensTag, endsTag]
    have behind : leavesOpen 0 rest = leavesOpen 0 after := by
      rw [whole, leavesOpen_bare bare 0 (by decide) (by decide)]
    have shown (tail : List Char) : holdsTag 0 (List.replicate (2 * slashes + 1) '\\' ++
        '[' :: (inside ++ ']' :: tail)) = holdsTag 0 tail := by
      rw [holdsTag_slashes, holdsTag_bracket, holdsTag_bare bare 0 (by decide) (by decide)]
      simp
    simp only [List.append_assoc, List.cons_append, shown, ih]
    simp [leavesOpen, ended, behind]
  | case4 slashes rest read _ ih =>
    have begins := isSome_tag?_append read apart.begins
    rw [← isSome_tag?_escapeTags] at begins
    simp only [List.append_assoc, List.cons_append, holdsTag_slashes, holdsTag_bracket, begins, ih]
    simp only [leavesOpen]
    cases opensTag rest <;> cases closes tail <;> simp [Bool.or_assoc]
  | case5 slashes c rest backslash bracket ih =>
    simp only [List.append_assoc, List.cons_append, holdsTag_slashes,
      holdsTag_char backslash bracket, ih]
    simp [leavesOpen, backslash, bracket]

/-- At the end of an escaped text there may be a further backslash. -/
theorem escape_eq (text : List Char) :
    escape text = escapeTags 0 text ∨ escape text = escapeTags 0 text ++ ['\\'] := by
  simp only [escape]
  split
  · exact .inl rfl
  · exact .inr rfl
  · exact .inl rfl

section

variable (text : List Char) {tail : List Char}

/-- An escaped text makes a tag with its tail only if it leaves a bracket open that the tail
closes. -/
theorem holdsTag_escape (apart : Apart tail) :
    holdsTag 0 (escape text ++ tail) = (leavesOpen 0 text && closes tail || holdsTag 0 tail) := by
  rcases escape_eq text with same | same
  · rw [same, holdsTag_escapeTags 0 text apart]
  · rw [same, List.append_assoc, List.singleton_append, holdsTag_escapeTags 0 text apart.backslash,
      closes_cons (by decide), holdsTag_backslash, apart.slashes]

theorem closes_escape (tail : List Char) :
    closes (escape text ++ tail) = closes (text ++ tail) := by
  rcases escape_eq text with same | same
  · rw [same, closes_escapeTags]
  · rw [same, List.append_assoc, List.singleton_append, closes_escapeTags]
    exact closes_append_congr text (closes_cons (by decide) tail)

/-- A single text is shown whole once it is escaped. -/
theorem holdsTag_escape_alone : holdsTag 0 (escape text) = false := by
  have alone := holdsTag_escape text apart_nil
  rw [List.append_nil] at alone
  rw [alone]
  simp [closes, holdsTag]

end

/-! ## Joined text -/

/-- Whether one of some texts leaves a tag open that is closed by those behind it. -/
def straddles : List (List Char) → Bool
  | [] => false
  | text :: rest => leavesOpen 0 text && closes rest.flatten || straddles rest

/-- Texts straddle exactly if one of them leaves a bracket open that a later one closes. -/
theorem straddles_iff {texts : List (List Char)} :
    straddles texts = true ↔ ∃ before text after, texts = before ++ text :: after ∧
      leavesOpen 0 text = true ∧ closes after.flatten = true := by
  induction texts with
  | nil => simp [straddles]
  | cons first rest ih =>
    rw [straddles, Bool.or_eq_true, Bool.and_eq_true, ih]
    constructor
    · rintro (⟨opens, ends⟩ | ⟨before, text, after, rfl, opens, ends⟩)
      · exact ⟨[], first, rest, rfl, opens, ends⟩
      · exact ⟨first :: before, text, after, rfl, opens, ends⟩
    · rintro ⟨before, text, after, same, opens, ends⟩
      cases before with
      | nil =>
        obtain ⟨rfl, rfl⟩ := List.cons_eq_cons.mp same
        exact .inl ⟨opens, ends⟩
      | cons other before =>
        obtain ⟨rfl, rfl⟩ := List.cons_eq_cons.mp same
        exact .inr ⟨before, text, after, rfl, opens, ends⟩

end PageHarvest.Console
