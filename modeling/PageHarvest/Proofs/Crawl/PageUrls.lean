import PageHarvest.Crawl.Paging
import PageHarvest.Proofs.Text.Pieces

/-! # Addresses of pages

The pages of a walk are numbered from zero on without a gap. Every page has an address of its own:
the placeholder stands in the template at least once, each time the number is put for it, and
numbers that differ do so in their first digits or in their lengths. No placeholder is left.
-/

namespace PageHarvest

/-! ## Texts put between pieces -/

namespace Text

private theorem length_intercalate (filling piece : List Char) (pieces : List (List Char)) :
    (filling.intercalate (piece :: pieces)).length =
      piece.length + pieces.length * filling.length + pieces.flatten.length := by
  induction pieces generalizing piece with
  | nil => simp
  | cons next rest ih =>
    rw [List.intercalate_cons_cons, List.length_append, List.length_append, ih, List.length_cons,
      List.flatten_cons, List.length_append, Nat.add_mul]
    omega

/-- A text that stands between pieces can be told from the whole. -/
theorem eq_of_intercalate_eq {one other piece next : List Char} {rest : List (List Char)}
    (same : one.intercalate (piece :: next :: rest) =
      other.intercalate (piece :: next :: rest)) : one = other := by
  have lengths := congrArg List.length same
  rw [length_intercalate, length_intercalate] at lengths
  have long : one.length = other.length :=
    Nat.eq_of_mul_eq_mul_left (Nat.succ_pos rest.length) (by simpa using lengths)
  rw [List.intercalate_cons_cons, List.intercalate_cons_cons, List.append_assoc,
    List.append_assoc] at same
  exact (List.append_inj (List.append_cancel_left same) long).1

/-- A text in which a separator stands is split into two pieces at least. -/
theorem exists_splitAt_of_infix {sep s : List Char} (given : sep ≠ []) (inside : sep <:+: s) :
    ∃ piece next rest, splitAt sep s = piece :: next :: rest := by
  rw [splitAt, dif_neg given]
  split
  · next missing => exact absurd inside (not_infix_of_cut_eq_none given missing)
  · next before after _ =>
    obtain ⟨next, rest, split⟩ := List.exists_cons_of_ne_nil (splitAt_ne_nil sep after)
    exact ⟨before, next, rest, by rw [split]⟩

/-- Pieces without a pair have none either with a text between them that holds nothing of it. -/
theorem not_infix_pair_intercalate {first second : Char} {filling : List Char}
    (given : filling ≠ []) (noFirst : first ∉ filling) (noSecond : second ∉ filling)
    {pieces : List (List Char)} (apart : ∀ piece ∈ pieces, ¬ [first, second] <:+: piece) :
    ¬ [first, second] <:+: filling.intercalate pieces := by
  have inFilling : ¬ [first, second] <:+: filling := fun inside =>
    noFirst (inside.subset List.mem_cons_self)
  induction pieces with
  | nil => simp
  | cons piece rest ih =>
    rw [List.forall_mem_cons] at apart
    cases rest with
    | nil => simpa using apart.1
    | cons next rest =>
      rw [List.intercalate_cons_cons, List.append_assoc]
      refine not_infix_pair_append apart.1 (not_infix_pair_append inFilling (ih apart.2) ?_) ?_
      · exact .inl fun last => noFirst (List.mem_of_mem_getLast? last)
      · rw [List.head?_append_of_ne_nil _ given]
        exact .inr fun front => noSecond (List.mem_of_mem_head? front)

end Text

namespace Paging

open Text

variable {paging : Paging}

/-! ## Templates -/

private theorem toList_placeholder : placeholder.toList = ['\x7b', '\x7d'] := rfl

/-- Where pages are numbered there is a place for the number in every template. -/
theorem template_holds_placeholder (counted : paging.mode ≠ .disabled) (base : String) :
    placeholder.toList <:+: (base ++ paging.extension).toList := by
  have sound := paging.sound
  rw [fault?, if_neg counted] at sound
  have held : Text.contains paging.extension placeholder = true := by
    by_contra missing
    rw [if_pos (by simpa using missing)] at sound
    cases sound
  rw [String.toList_append]
  exact ((contains_iff (by decide)).mp held).trans (List.suffix_append _ _).isInfix

private theorem toList_url (counted : paging.mode ≠ .disabled) (base : String) (page : Nat) :
    (paging.url base page).toList = (Nat.toDigits 10 page).intercalate
      (splitAt placeholder.toList (base ++ paging.extension).toList) := by
  have filled : (replace placeholder (toString page) (base ++ paging.extension)).toList =
      (Nat.toDigits 10 page).intercalate
        (splitAt placeholder.toList (base ++ paging.extension).toList) := by
    rw [replace, substitute, String.toList_ofList, Nat.toString_eq_ofList_toDigits,
      String.toList_ofList]
  rw [url]
  split
  · next disabled => exact absurd disabled counted
  · exact filled
  · exact filled

private theorem toDigits_injective : Function.Injective (Nat.toDigits 10) :=
  Function.LeftInverse.injective (g := fun digits => Nat.ofDigitChars 10 digits 0)
    fun _ => Nat.ofDigitChars_ten_toDigits

/-! ## Pages -/

private theorem url_injective (counted : paging.mode ≠ .disabled) (base : String) :
    Function.Injective (paging.url base) := by
  intro page other same
  have texts := congrArg String.toList same
  obtain ⟨piece, next, rest, split⟩ :=
    exists_splitAt_of_infix (by decide) (template_holds_placeholder counted base)
  rw [toList_url counted, toList_url counted, split] at texts
  exact toDigits_injective (eq_of_intercalate_eq texts)

private theorem not_contains_url (counted : paging.mode ≠ .disabled) (base : String) (page : Nat) :
    Text.contains (paging.url base page) placeholder = false := by
  have digits {c : Char} (member : c ∈ Nat.toDigits 10 page) : c.isDigit = true :=
    Nat.isDigit_of_mem_toDigits (by decide) (by decide) member
  rw [← Bool.not_eq_true, contains_iff (by decide), toList_url counted, toList_placeholder]
  apply not_infix_pair_intercalate Nat.toDigits_ne_nil
  · exact fun member => absurd (digits member) (by decide)
  · exact fun member => absurd (digits member) (by decide)
  · exact fun piece member => not_infix_of_mem_splitAt (by decide) member

/-- Of the pages up to a limit those are due that the walk has. -/
private theorem filter_isDue (counted : paging.mode ≠ .disabled) (limit : Nat) :
    (List.range limit).filter paging.isDue = List.range (paging.pages.elim limit (min limit)) := by
  have due (page : Nat) : paging.isDue page = paging.pages.all (page < ·) := by
    rw [isDue]
    split
    · next disabled => exact absurd disabled counted
    · rfl
    · rfl
  rw [List.filter_congr fun page _ => due page]
  cases paging.pages with
  | none => exact List.filter_true _
  | some count =>
    induction limit with
    | zero => simp
    | succ limit ih =>
      rw [List.range_succ, List.filter_append, ih]
      by_cases more : limit < count
      · have both : min limit count = limit ∧ min (limit + 1) count = limit + 1 := by omega
        simp [more, both, List.range_succ]
      · have both : min limit count = count ∧ min (limit + 1) count = count := by omega
        simp [more, both]

/-- A walk with numbered pages goes over the pages from zero on, as many as are asked for if a
number of them is given. Pages of different numbers have different addresses, whatever stands in the
base, and no address holds a placeholder any more. -/
theorem firstUrls_numbered (counted : paging.mode ≠ .disabled) (base : String) :
    (∀ limit, paging.firstUrls base limit =
      (List.range (paging.pages.elim limit (min limit))).map fun page =>
        (page, paging.url base page)) ∧
    Function.Injective (paging.url base) ∧
    ∀ page, Text.contains (paging.url base page) placeholder = false := by
  refine ⟨fun limit => ?_, url_injective counted base, not_contains_url counted base⟩
  rw [firstUrls, filter_isDue counted]

/-- A placeholder that begins in the base and one in the extension: both give way to the number. -/
theorem firstUrls_numbered_braces :
    let paging : Paging := {
      mode := .fixed, extension := "\x7d/\x7b\x7d", pages := some 2, sound := by decide }
    paging.firstUrls "x\x7b" 5 = [(0, "x0/0"), (1, "x1/1")] ∧
      Function.Injective (paging.url "x\x7b") ∧
      ∀ page, Text.contains (paging.url "x\x7b" page) placeholder = false := by
  intro paging
  obtain ⟨numbered, injective, bare⟩ :=
    firstUrls_numbered (by decide : paging.mode ≠ .disabled) "x\x7b"
  exact ⟨(numbered 5).trans (by decide +kernel), injective, bare⟩

end Paging

end PageHarvest
