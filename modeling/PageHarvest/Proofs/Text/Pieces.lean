import Mathlib.Data.List.Chain
import Mathlib.Data.List.Infix
import Mathlib.Data.List.TakeWhile
import PageHarvest.Text.Blank
import PageHarvest.Text.Search

/-! # Putting texts together and taking them apart

Trimming takes away exactly the blanks that were put around a text, and cutting finds exactly the
separator that was put between two texts, as long as the texts hold none of their own. No piece of
a text that was split holds the separator.
-/

namespace PageHarvest.Text

/-- No blank stands at either end. -/
def Unpadded (core : List Char) : Prop :=
  (∀ c ∈ core.head?, isBlank c = false) ∧ ∀ c ∈ core.getLast?, isBlank c = false

instance (core : List Char) : Decidable (Unpadded core) :=
  decidable_of_iff (core.head?.all (!isBlank ·) ∧ core.getLast?.all (!isBlank ·))
    (by simp only [Unpadded, Option.all_eq_true, Bool.not_eq_true', Option.mem_def])

/-- A text with any blanks around it. -/
def Padded (core text : List Char) : Prop :=
  ∃ front back, isBlankText front = true ∧ isBlankText back = true ∧ text = front ++ core ++ back

theorem isBlank_of_mem {gap : List Char} (blank : isBlankText gap = true) {c : Char}
    (member : c ∈ gap) : isBlank c = true :=
  List.all_eq_true.mp blank c member

private theorem Padded.refl (core : List Char) : Padded core core := ⟨[], [], rfl, rfl, by simp⟩

theorem isBlankText_append {left right : List Char} :
    isBlankText (left ++ right) = (isBlankText left && isBlankText right) :=
  List.all_append

private theorem Padded.trans {core middle text : List Char} (inner : Padded core middle)
    (outer : Padded middle text) : Padded core text := by
  obtain ⟨front, back, blankFront, blankBack, rfl⟩ := inner
  obtain ⟨front', back', blankFront', blankBack', rfl⟩ := outer
  refine ⟨front' ++ front, back ++ back', ?_, ?_, by simp⟩
  · rw [isBlankText_append, blankFront', blankFront]
    rfl
  · rw [isBlankText_append, blankBack, blankBack']
    rfl

theorem dropWhile_front {p : Char → Bool} {front core : List Char}
    (passed : ∀ c ∈ front, p c = true) (stop : ∀ c ∈ core.head?, p c = false) :
    (front ++ core).dropWhile p = core := by
  rw [List.dropWhile_append_of_pos passed]
  cases core with
  | nil => rfl
  | cons c rest => exact List.dropWhile_cons_of_neg (by simp [stop c rfl])

/-- Trimming undoes padding. -/
theorem trim_of_padded {core text : List Char} (unpadded : Unpadded core)
    (padded : Padded core text) : trim text = core := by
  obtain ⟨front, back, blankFront, blankBack, rfl⟩ := padded
  have passedBack : ∀ c ∈ back.reverse, isBlank c = true :=
    fun c member => isBlank_of_mem blankBack (List.mem_reverse.mp member)
  cases core with
  | nil =>
    have passed : ∀ c ∈ front ++ back, isBlank c = true := fun c member =>
      (List.mem_append.mp member).elim (isBlank_of_mem blankFront) (isBlank_of_mem blankBack)
    have dropped : (front ++ [] ++ back).dropWhile isBlank = [] := by
      rw [List.append_nil]
      exact List.dropWhile_eq_nil_iff.mpr passed
    rw [trim, trimBy, dropped]
    rfl
  | cons c rest =>
    have dropped : (front ++ (c :: rest ++ back)).dropWhile isBlank = c :: rest ++ back :=
      dropWhile_front (fun _ member => isBlank_of_mem blankFront member)
        (fun d same => unpadded.1 d same)
    have ended : (back.reverse ++ (c :: rest).reverse).dropWhile isBlank = (c :: rest).reverse :=
      dropWhile_front passedBack (fun d same => unpadded.2 d (by
        rwa [List.head?_reverse] at same))
    rw [List.append_assoc, trim, trimBy, dropped, dropEndWhile, List.reverse_append, ended,
      List.reverse_reverse]

private theorem isPrefix_dropEndWhile (p : Char → Bool) (s : List Char) :
    dropEndWhile p s <+: s := by
  rw [dropEndWhile, ← List.reverse_suffix, List.reverse_reverse]
  exact List.dropWhile_suffix p

/-- Trimming leaves no blank at either end. -/
theorem unpadded_trim (s : List Char) : Unpadded (trim s) := by
  constructor
  · intro c atFront
    have stop := List.head?_dropWhile_not isBlank s
    obtain ⟨back, whole⟩ := isPrefix_dropEndWhile isBlank (s.dropWhile isBlank)
    have same : (s.dropWhile isBlank).head? = some c := by
      rw [← whole, List.head?_append]
      exact congrArg (Option.or · back.head?) (Option.mem_def.mp atFront)
    rwa [same] at stop
  · intro c atEnd
    have stop := List.head?_dropWhile_not isBlank (s.dropWhile isBlank).reverse
    rw [trim, trimBy, dropEndWhile, List.getLast?_reverse] at atEnd
    rwa [Option.mem_def.mp atEnd] at stop

theorem trim_eq_self {s : List Char} (unpadded : Unpadded s) : trim s = s :=
  trim_of_padded unpadded (.refl s)

/-- A text is what trimming leaves of it, with blanks around it. -/
theorem padded_trim (s : List Char) : Padded (trim s) s := by
  have front := List.takeWhile_append_dropWhile (p := isBlank) (l := s)
  have back : trim s ++ ((s.dropWhile isBlank).reverse.takeWhile isBlank).reverse =
      s.dropWhile isBlank := by
    rw [trim, trimBy, dropEndWhile, ← List.reverse_append, List.takeWhile_append_dropWhile,
      List.reverse_reverse]
  refine ⟨_, _, List.all_takeWhile, ?_, by rw [List.append_assoc, back, front]⟩
  rw [isBlankText, List.all_reverse]
  exact List.all_takeWhile

/-- Blanks around a text are lost to trimming. -/
theorem trim_eq_of_padded {core text : List Char} (padded : Padded core text) :
    trim text = trim core :=
  trim_of_padded (unpadded_trim core) ((padded_trim core).trans padded)

/-- What trimming leaves is a part of the text. -/
theorem isInfix_trim (s : List Char) : trim s <:+: s :=
  (isPrefix_dropEndWhile isBlank _).isInfix.trans (List.dropWhile_suffix isBlank).isInfix

/-- A single separator is found where it stands first. -/
theorem cut_append {c : Char} {before : List Char} (absent : c ∉ before) (after : List Char) :
    cut [c] (before ++ c :: after) = some (before, after) := by
  induction before with
  | nil => simp [cut]
  | cons d rest ih =>
    have differs : c ≠ d := fun same => absent (same ▸ List.mem_cons_self ..)
    have found := ih (fun member => absent (List.mem_cons_of_mem _ member))
    simp [cut, differs, found]

/-- A single separator that does not occur is not found. -/
theorem cut_eq_none {c : Char} {s : List Char} (absent : c ∉ s) : cut [c] s = none := by
  induction s with
  | nil => rfl
  | cons d rest ih =>
    rw [List.mem_cons, not_or] at absent
    rw [cut, if_neg (by simpa [List.isPrefixOf] using absent.1), ih absent.2]
    rfl

/-- A single separator is found where it stands last. -/
theorem cutLast_append {c : Char} (before : List Char) {after : List Char} (absent : c ∉ after) :
    cutLast c (before ++ c :: after) = some (before, after) := by
  have flipped : (before ++ c :: after).reverse = after.reverse ++ c :: before.reverse := by simp
  rw [cutLast, flipped, cut_append (by simpa using absent)]
  simp

/-- Cutting takes a text apart at the separator. -/
theorem append_of_cut {sep s before after : List Char} (found : cut sep s = some (before, after)) :
    before ++ sep ++ after = s := by
  induction s generalizing before with
  | nil =>
    rw [cut] at found
    split at found
    · next empty =>
      cases found
      rw [List.isEmpty_iff.mp empty]
      rfl
    · cases found
  | cons c rest ih =>
    rw [cut] at found
    split at found
    · next here =>
      cases found
      exact List.prefix_iff_eq_append.mp (List.isPrefixOf_iff_prefix.mp here)
    · obtain ⟨⟨front, back⟩, later, same⟩ := Option.map_eq_some_iff.mp found
      cases same
      rw [List.cons_append, List.cons_append, ih later]

/-- No separator stands before the first one. -/
theorem not_infix_of_cut {sep s before after : List Char} (given : sep ≠ [])
    (found : cut sep s = some (before, after)) : ¬ sep <:+: before := by
  induction s generalizing before with
  | nil => simp [cut, given] at found
  | cons c rest ih =>
    have whole := append_of_cut found
    rw [cut] at found
    split at found
    · cases found
      simpa using given
    · next notHere =>
      obtain ⟨⟨front, back⟩, later, same⟩ := Option.map_eq_some_iff.mp found
      cases same
      rw [List.infix_cons_iff]
      rintro (here | inside)
      · have atFront : c :: front <+: c :: rest := by
          rw [← whole, List.append_assoc]
          exact List.prefix_append _ _
        exact notHere (List.isPrefixOf_iff_prefix.mpr (here.trans atFront))
      · exact ih later inside

theorem not_infix_of_cut_eq_none {sep s : List Char} (given : sep ≠ [])
    (missing : cut sep s = none) :
    ¬ sep <:+: s := by
  induction s with
  | nil => simpa using given
  | cons c rest ih =>
    rw [cut] at missing
    split at missing
    · cases missing
    · next notHere =>
      rw [List.infix_cons_iff]
      rintro (here | inside)
      · exact notHere (List.isPrefixOf_iff_prefix.mpr here)
      · exact ih (Option.map_eq_none_iff.mp missing) inside

/-- A part occurs in a text if it stands somewhere in it. -/
theorem contains_iff {s part : String} (given : part.toList ≠ []) :
    contains s part = true ↔ part.toList <:+: s.toList := by
  rw [contains, occursIn]
  cases found : cut part.toList s.toList with
  | none => exact iff_of_false nofun (not_infix_of_cut_eq_none given found)
  | some parts =>
    obtain ⟨before, after⟩ := parts
    exact iff_of_true rfl ⟨before, after, append_of_cut found⟩

/-- No piece holds the separator at which a text was split. -/
theorem not_infix_of_mem_splitAt {sep s piece : List Char} (given : sep ≠ [])
    (member : piece ∈ splitAt sep s) : ¬ sep <:+: piece := by
  fun_induction splitAt sep s with
  | case1 s empty => exact absurd empty given
  | case2 s _ missing =>
    obtain rfl := List.mem_singleton.mp member
    exact not_infix_of_cut_eq_none given missing
  | case3 s _ before after found ih =>
    rcases List.mem_cons.mp member with rfl | later
    · exact not_infix_of_cut given found
    · exact ih later

/-- Every character of a piece comes from the text that was split. -/
theorem subset_of_mem_splitAt {sep s piece : List Char} (member : piece ∈ splitAt sep s) :
    piece ⊆ s := by
  fun_induction splitAt sep s with
  | case1 s empty =>
    obtain rfl := List.mem_singleton.mp member
    exact List.Subset.refl _
  | case2 s _ missing =>
    obtain rfl := List.mem_singleton.mp member
    exact List.Subset.refl _
  | case3 s _ before after found ih =>
    have whole := append_of_cut found
    rw [← whole]
    rcases List.mem_cons.mp member with rfl | later
    · rw [List.append_assoc]
      exact List.subset_append_left _ _
    · exact List.Subset.trans (ih later) (List.subset_append_right _ _)

private theorem mem_intercalate {filling : List Char} {pieces : List (List Char)} {c : Char}
    (member : c ∈ filling.intercalate pieces) : c ∈ filling ∨ ∃ piece ∈ pieces, c ∈ piece := by
  induction pieces with
  | nil => cases member
  | cons piece rest ih =>
    cases rest with
    | nil =>
      rw [List.intercalate_singleton] at member
      exact .inr ⟨piece, List.mem_cons_self, member⟩
    | cons next more =>
      rw [List.intercalate_cons_cons, List.mem_append, List.mem_append] at member
      obtain (here | between) | later := member
      · exact .inr ⟨piece, List.mem_cons_self, here⟩
      · exact .inl between
      · obtain filled | ⟨other, among, inside⟩ := ih later
        · exact .inl filled
        · exact .inr ⟨other, List.mem_cons_of_mem _ among, inside⟩

/-- A substitution brings no characters into a text but those that it puts in. -/
theorem mem_substitute {old new s : List Char} {c : Char} (member : c ∈ substitute old new s) :
    c ∈ new ∨ c ∈ s := by
  obtain put | ⟨piece, among, inside⟩ := mem_intercalate member
  · exact .inl put
  · exact .inr (subset_of_mem_splitAt among inside)

theorem splitAt_ne_nil (sep s : List Char) : splitAt sep s ≠ [] := by
  rw [splitAt]
  split
  · exact List.cons_ne_nil _ _
  · split <;> exact List.cons_ne_nil _ _

/-- Splitting undoes joining with a separator that is found just where it was put. -/
theorem splitAt_intercalate {sep : List Char} (given : sep ≠ []) (piece : List Char)
    (pieces : List (List Char)) (absent : ∀ other ∈ piece :: pieces, cut sep other = none)
    (found : ∀ other ∈ piece :: pieces, ∀ after,
      cut sep (other ++ (sep ++ after)) = some (other, after)) :
    splitAt sep (sep.intercalate (piece :: pieces)) = piece :: pieces := by
  induction pieces generalizing piece with
  | nil =>
    have missing := absent piece (List.mem_singleton_self _)
    rw [List.intercalate_singleton, splitAt, dif_neg given]
    split
    · rfl
    · next cuts =>
      rw [missing] at cuts
      cases cuts
  | cons next rest ih =>
    have here := found piece List.mem_cons_self (sep.intercalate (next :: rest))
    have tail := ih next (fun other member => absent other (List.mem_cons_of_mem _ member))
      fun other member => found other (List.mem_cons_of_mem _ member)
    rw [List.intercalate_cons_cons, List.append_assoc, splitAt, dif_neg given]
    split
    · next missing =>
      rw [here] at missing
      cases missing
    · next cuts =>
      rw [here] at cuts
      cases cuts
      rw [tail]

/-- Splitting at a character undoes joining with it. -/
theorem splitAt_intercalate_char {c : Char} (piece : List Char) (pieces : List (List Char))
    (absent : ∀ other ∈ piece :: pieces, c ∉ other) :
    splitAt [c] ([c].intercalate (piece :: pieces)) = piece :: pieces := by
  refine splitAt_intercalate (List.cons_ne_nil _ _) piece pieces ?_ ?_
  · intro other member
    exact cut_eq_none (absent other member)
  · intro other member after
    exact cut_append (absent other member) after

section Pair

variable {first second : Char}

/-- Two characters never stand next to each other if no neighbours are these two. -/
theorem not_infix_pair_iff {s : List Char} :
    ¬ [first, second] <:+: s ↔ s.IsChain fun x y => ¬ (x = first ∧ y = second) := by
  rw [List.isChain_iff_forall_rel_of_append_cons_cons]
  constructor
  · rintro apart x y before after rfl ⟨rfl, rfl⟩
    exact apart ⟨before, after, by simp⟩
  · rintro chain ⟨before, after, same⟩
    exact @chain first second before after (by rw [← same]; simp) ⟨rfl, rfl⟩

/-- Joining two texts makes no new pair unless the joint itself is one. -/
theorem not_infix_pair_append {left right : List Char} (inLeft : ¬ [first, second] <:+: left)
    (inRight : ¬ [first, second] <:+: right)
    (joint : first ∉ left.getLast? ∨ second ∉ right.head?) :
    ¬ [first, second] <:+: left ++ right := by
  rw [not_infix_pair_iff] at inLeft inRight ⊢
  refine inLeft.append inRight ?_
  rintro x atEnd y atFront ⟨rfl, rfl⟩
  exact joint.elim (· atEnd) (· atFront)

/-- A pair of different characters is found where it stands first. -/
theorem cut_pair_append (differ : first ≠ second) {before : List Char}
    (apart : ¬ [first, second] <:+: before) (after : List Char) :
    cut [first, second] (before ++ first :: second :: after) = some (before, after) := by
  rw [not_infix_pair_iff] at apart
  induction before with
  | nil => simp [cut]
  | cons c rest ih =>
    have found := ih apart.tail
    have notHere : ¬ [first, second] <+: c :: (rest ++ first :: second :: after) := by
      rw [List.cons_prefix_cons]
      rintro ⟨rfl, next⟩
      cases rest with
      | nil => exact differ (List.cons_prefix_cons.mp next).1.symm
      | cons d more =>
        have same := (List.cons_prefix_cons.mp next).1
        exact (List.isChain_cons_cons.mp apart).1 ⟨rfl, same.symm⟩
    rw [List.cons_append, cut, if_neg (by simpa using notHere), found]
    rfl

private theorem cut_pair_eq_none {s : List Char} (apart : ¬ [first, second] <:+: s) :
    cut [first, second] s = none := by
  induction s with
  | nil => rfl
  | cons c rest ih =>
    have missing := ih (fun inside => apart (inside.trans (List.infix_cons (List.infix_refl _))))
    have notHere : ¬ [first, second] <+: c :: rest := fun here => apart here.isInfix
    rw [cut, if_neg (by simpa using notHere), missing]
    rfl

/-- Splitting undoes joining. -/
theorem splitAt_intercalate_pair (differ : first ≠ second) (piece : List Char)
    (pieces : List (List Char))
    (apart : ∀ other ∈ piece :: pieces, ¬ [first, second] <:+: other) :
    splitAt [first, second] ([first, second].intercalate (piece :: pieces)) = piece :: pieces := by
  refine splitAt_intercalate (List.cons_ne_nil _ _) piece pieces ?_ ?_
  · intro other member
    exact cut_pair_eq_none (apart other member)
  · intro other member after
    exact cut_pair_append differ (apart other member) after

end Pair

end PageHarvest.Text
