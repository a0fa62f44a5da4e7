import PageHarvest.Console.Markup
import PageHarvest.Proofs.Traverse

/-! # Markup that always shows

A style that is opened and closed around text that holds no tag leaves the open styles as they were,
even where backslashes at the end of the text make the closing tag show. So such markup has a
meaning as long as the names in its tags mean styles, or at least no colour with a part missing.
-/

namespace PageHarvest.Console

open Text

/-! ## The pieces of a markup text -/

section

variable {position slashes : Nat} {plain rest : List Char}

private theorem piecesFrom_backslash (position slashes : Nat) (plain rest : List Char) :
    piecesFrom position plain slashes ('\\' :: rest) =
      piecesFrom position plain (slashes + 1) rest := by
  rw [piecesFrom, if_pos rfl]

private theorem piecesFrom_char {c : Char} (backslash : c ≠ '\\') (bracket : c ≠ '[') :
    piecesFrom position plain slashes (c :: rest) =
      piecesFrom (position + slashes + 1) (plain ++ List.replicate slashes '\\' ++ [c]) 0 rest := by
  rw [piecesFrom, if_neg backslash]
  simp only [if_neg bracket]

private theorem piecesFrom_tag {inside after : List Char}
    (read : tag? rest = some (inside, after)) :
    piecesFrom position plain slashes ('[' :: rest) =
      Piece.ofText plain ++ Piece.ofTag position slashes inside ++
        piecesFrom (position + slashes + inside.length + 2) [] 0 after := by
  rw [piecesFrom, if_neg (by decide)]
  simp only [if_true]
  split
  · rename_i read'
    obtain ⟨rfl, rfl⟩ := Prod.mk.inj (Option.some.inj (read.symm.trans read'))
    rfl
  · rename_i read'
    exact absurd (read.symm.trans read') (by simp)

private theorem piecesFrom_bracket (read : tag? rest = none) :
    piecesFrom position plain slashes ('[' :: rest) =
      piecesFrom (position + slashes + 1) (plain ++ List.replicate slashes '\\' ++ ['['])
        0 rest := by
  rw [piecesFrom, if_neg (by decide)]
  simp only [if_true]
  split
  · rename_i read'
    exact absurd (read.symm.trans read') (by simp)
  · rfl

end

/-! ## Text without tags -/

/-- Whether a text holds no tag. -/
def tagless : List Char → Bool
  | [] => true
  | c :: rest => (c != '[' || (tag? rest).isNone) && tagless rest

private theorem tagless_cons {c : Char} {rest : List Char} :
    tagless (c :: rest) = true ↔ (c = '[' → tag? rest = none) ∧ tagless rest = true := by
  simp [tagless, Decidable.imp_iff_not_or]

/-- A text without an opening bracket holds no tag. -/
theorem tagless_of_bare {text : List Char} (bare : '[' ∉ text) : tagless text = true := by
  induction text with
  | nil => rfl
  | cons c rest ih =>
    rw [List.mem_cons, not_or] at bare
    exact tagless_cons.mpr ⟨fun same => absurd same.symm bare.1, ih bare.2⟩

/-- Text without a bracket in front adds no tag. -/
theorem tagless_append_left {front text : List Char} (bare : '[' ∉ front)
    (tagless : tagless text = true) : Console.tagless (front ++ text) = true := by
  induction front with
  | nil => exact tagless
  | cons c rest ih =>
    rw [List.mem_cons, not_or] at bare
    exact tagless_cons.mpr ⟨fun same => absurd same.symm bare.1, ih bare.2⟩

theorem tag?_cons_eq_none {c : Char} {rest : List Char} :
    tag? (c :: rest) = none ↔
      (beginsTag c = true → (rest.dropWhile (!endsTag ·)).head? ≠ some ']') := by
  by_cases begins : beginsTag c = true
  · rw [tag?, if_pos begins]
    split
    · rename_i after found
      simp [begins, found]
    · rename_i other
      refine iff_of_true rfl fun _ head => ?_
      obtain ⟨after, found⟩ := List.head?_eq_some_iff.mp head
      exact other after found
  · simp [tag?, begins]

/-- A tag ends with the first bracket. -/
theorem tag?_cons_append {c : Char} {inside rest : List Char} (begins : beginsTag c = true)
    (bare : ∀ d ∈ inside, endsTag d = false) :
    tag? (c :: inside ++ ']' :: rest) = some (c :: inside, rest) := by
  have took : (inside ++ ']' :: rest).takeWhile (!endsTag ·) = inside := by
    rw [List.takeWhile_append_of_pos fun d among => by simp [bare d among]]
    simp [endsTag]
  have dropped : (inside ++ ']' :: rest).dropWhile (!endsTag ·) = ']' :: rest := by
    rw [List.dropWhile_append_of_pos fun d among => by simp [bare d among]]
    simp [endsTag]
  rw [List.cons_append, tag?, if_pos begins, dropped]
  simp only [took]

theorem endsTag_of_beginsTag {c : Char} (begins : beginsTag c = true) : endsTag c = false := by
  simp only [endsTag, Bool.or_eq_false_iff, decide_eq_false_iff_not]
  constructor <;> rintro rfl <;> exact absurd begins (by decide)

/-- What is no tag becomes none by text behind it in which no tag ends. -/
theorem tag?_append {text tail : List Char} (untagged : tag? text = none)
    (unended : (tail.dropWhile (!endsTag ·)).head? ≠ some ']') : tag? (text ++ tail) = none := by
  cases text with
  | nil =>
    cases tail with
    | nil => rfl
    | cons c rest =>
      refine tag?_cons_eq_none.mpr fun begins => ?_
      rwa [List.dropWhile_cons_of_pos (by simp [endsTag_of_beginsTag begins])] at unended
  | cons c rest =>
    rw [List.cons_append]
    refine tag?_cons_eq_none.mpr fun begins => ?_
    rw [List.dropWhile_append]
    split
    · exact unended
    · rename_i ended
      have head := tag?_cons_eq_none.mp untagged begins
      cases found : rest.dropWhile (!endsTag ·) with
      | nil => simp [found] at ended
      | cons d after => simpa [found] using head

/-- Text without brackets behind adds no tag. -/
theorem tagless_append_right {text tail : List Char} (tagless : tagless text = true)
    (bare : '[' ∉ tail) (unended : ']' ∉ tail) : Console.tagless (text ++ tail) = true := by
  have open_ : (tail.dropWhile (!endsTag ·)).head? ≠ some ']' := fun head =>
    unended ((List.dropWhile_sublist _).subset (List.mem_of_mem_head? head))
  induction text with
  | nil => exact tagless_of_bare bare
  | cons c rest ih =>
    obtain ⟨here, later⟩ := tagless_cons.mp tagless
    exact tagless_cons.mpr ⟨fun bracket => tag?_append (here bracket) open_, ih later⟩

/-! ## Markup in any place -/

/-- A tag that is no event, and whose style can be looked up. -/
structure OpenTag.Harmless (tag : OpenTag) : Prop where
  style : tag.isEvent = false
  found : tag.lookUp = .ok ()

private theorem OpenTag.Harmless.checkEvent {tag : OpenTag} (harmless : tag.Harmless)
    (check : EventCheck) :
    tag.checkEvent check = .ok () := by
  rw [OpenTag.checkEvent, harmless.style, Bool.false_and]
  rfl

/-- Markup that shows with some tags open and some backslashes in front of it, wherever it
stands. -/
def Shows (check : EventCheck) (opened : List OpenTag) (slashes : Nat) (markup : List Char) :
    Prop :=
  (∀ tag ∈ opened, tag.Harmless) → ∀ behind position plain, ∃ shown,
    showPieces check behind opened (piecesFrom position plain slashes markup) = .ok shown ∧
      ∀ tag ∈ shown.tags, tag.Harmless

/-- Styles that do no harm are looked up without fault. -/
theorem Shown.lookUp_eq_ok {shown : Shown} (harmless : ∀ tag ∈ shown.tags, tag.Harmless) :
    shown.lookUp = .ok () := by
  refine forM_eq_ok fun tag among => ?_
  rw [List.mem_mergeSort, List.mem_reverse] at among
  exact (harmless tag among).found

section

variable {check : EventCheck}

/-- Markup that shows something has a plain text. -/
theorem Shows.plainOf {markup : List Char} (shows : Shows check [] 0 markup) :
    ∃ plain, plainOf check markup = .ok plain := by
  obtain ⟨shown, same, harmless⟩ := shows (List.forall_mem_nil _) 0 0 []
  refine ⟨shown.text, ?_⟩
  rw [Console.plainOf, shownOf, pieces, same]
  change shown.lookUp >>= _ = _
  rw [Shown.lookUp_eq_ok harmless]
  rfl

/-- Pieces show with some tags open, however much text was shown. -/
def ShowsPieces (check : EventCheck) (opened : List OpenTag) (list : List Piece) : Prop :=
  ∀ behind, ∃ shown, showPieces check behind opened list = .ok shown ∧
    ∀ tag ∈ shown.tags, tag.Harmless

private theorem showsPieces_text {opened : List OpenTag} {rest : List Piece} (text : List Char)
    (shows : ShowsPieces check opened rest) : ShowsPieces check opened (.text text :: rest) := by
  intro behind
  obtain ⟨shown, same, harmless⟩ := shows (behind + (shownText text).length)
  rw [showPieces, same]
  exact ⟨_, rfl, harmless⟩

private theorem showsPieces_ofText {opened : List OpenTag} {rest : List Piece} (text : List Char)
    (shows : ShowsPieces check opened rest) :
    ShowsPieces check opened (Piece.ofText text ++ rest) := by
  rw [Piece.ofText]
  split
  · exact shows
  · exact showsPieces_text text shows

variable {opened : List OpenTag} {slashes : Nat} {rest : List Char}

theorem shows_nil (opened : List OpenTag) (slashes : Nat) : Shows check opened slashes [] := by
  intro harmless behind position plain
  rw [piecesFrom, ← List.append_nil (Piece.ofText _)]
  exact showsPieces_ofText _ (fun behind => ⟨_, rfl, fun tag among =>
    harmless tag ((List.mem_filter.mp among).1)⟩) behind

private theorem shows_backslash (shows : Shows check opened (slashes + 1) rest) :
    Shows check opened slashes ('\\' :: rest) := by
  intro harmless behind position plain
  rw [piecesFrom_backslash]
  exact shows harmless behind position plain

private theorem shows_bracket (read : tag? rest = none) (shows : Shows check opened 0 rest) :
    Shows check opened slashes ('[' :: rest) := by
  intro harmless behind position plain
  rw [piecesFrom_bracket read]
  exact shows harmless behind _ _

private theorem shows_char {c : Char} (backslash : c ≠ '\\') (bracket : c ≠ '[')
    (shows : Shows check opened 0 rest) : Shows check opened slashes (c :: rest) := by
  intro harmless behind position plain
  rw [piecesFrom_char backslash bracket]
  exact shows harmless behind _ _

/-- Text without a tag shows if what follows does and is no end of a tag, whatever backslashes the
text ends with. -/
theorem shows_text {text : List Char} (tagless : tagless text = true)
    (unended : (rest.dropWhile (!endsTag ·)).head? ≠ some ']')
    (shows : ∀ slashes, Shows check opened slashes rest) (slashes : Nat) :
    Shows check opened slashes (text ++ rest) := by
  induction text generalizing slashes with
  | nil => exact shows slashes
  | cons c text ih =>
    obtain ⟨here, later⟩ := tagless_cons.mp tagless
    by_cases backslash : c = '\\'
    · subst backslash
      exact shows_backslash (ih later (slashes + 1))
    · by_cases bracket : c = '['
      · subst bracket
        exact shows_bracket (tag?_append (here rfl) unended) (ih later 0)
      · exact shows_char backslash bracket (ih later 0)

/-- Text without an opening bracket and without a backslash shows if what follows does. -/
theorem shows_plain {text : List Char} (bare : '[' ∉ text) (slashless : '\\' ∉ text)
    (shows : Shows check opened 0 rest) : Shows check opened 0 (text ++ rest) := by
  induction text with
  | nil => exact shows
  | cons c text ih =>
    rw [List.mem_cons, not_or] at bare slashless
    exact shows_char (Ne.symm slashless.1) (Ne.symm bare.1) (ih bare.2 slashless.2)

/-- A step over a tag after which the markup behind it shows. -/
def Steps (check : EventCheck) (opened : List OpenTag) (inside after : List Char) : Prop :=
  ∀ behind position, ∃ closed opened',
    tagStep opened behind position inside = .ok (closed, opened') ∧
      (∀ tag, closed = some tag → tag ∈ opened) ∧
      (∀ tag ∈ opened', tag ∈ opened ∨ tag.Harmless) ∧ Shows check opened' 0 after

/-- A tag shows itself after an odd number of backslashes; otherwise it has to be one that may
stand there. -/
theorem shows_tag {inside after : List Char} (read : tag? rest = some (inside, after))
    (itself : slashes % 2 = 1 → Shows check opened 0 after)
    (steps : slashes % 2 ≠ 1 → Steps check opened inside after) :
    Shows check opened slashes ('[' :: rest) := by
  intro harmless behind position plain
  rw [piecesFrom_tag read, List.append_assoc, Piece.ofTag, List.append_assoc]
  refine showsPieces_ofText _ (showsPieces_ofText _ ?_) behind
  by_cases odd : slashes % 2 = 1
  · rw [if_pos odd]
    exact showsPieces_text _ fun behind => itself odd harmless behind _ _
  · rw [if_neg odd]
    intro behind
    obtain ⟨closed, opened', step, among, kept, shows⟩ := steps odd behind (position + slashes)
    have harmless' : ∀ tag ∈ opened', tag.Harmless := fun tag stays =>
      (kept tag stays).elim (harmless tag) id
    have checked : closed.forM (OpenTag.checkEvent check) = .ok () := by
      cases closed with
      | none => rfl
      | some tag => exact (harmless tag (among tag rfl)).checkEvent check
    obtain ⟨shown, same, fine⟩ := shows harmless' behind
      (position + slashes + inside.length + 2) []
    refine ⟨{ shown with tags := closed.toList.filter (·.start < behind) ++ shown.tags }, ?_, ?_⟩
    · rw [List.cons_append, List.nil_append, showPieces, step]
      change closed.forM (OpenTag.checkEvent check) >>= _ = _
      rw [checked]
      change showPieces check behind opened' _ >>= _ = _
      rw [same]
      rfl
    · rw [List.forall_mem_append]
      refine ⟨fun tag shuts => ?_, fine⟩
      exact harmless tag (among tag (Option.mem_toList.mp ((List.mem_filter.mp shuts).1)))

end

/-! ## Styled text -/

/-- The name of a style as it may stand in a tag. -/
structure TagName (name : List Char) : Prop where
  begins : name.head?.any (fun c => beginsTag c && c != '/') = true
  inside : (name.all fun c => !endsTag c && c != '=') = true
  trimmed : trim name = name
  canonical : canonicalStyle name = .ok name
  event : name.head? ≠ some '@'
  found : lookUp name [] = .ok ()

namespace TagName

variable {name : List Char} (valid : TagName name) (rest : List Char)

include valid

private theorem stays_inside {c : Char} (among : c ∈ name) : endsTag c = false ∧ c ≠ '=' := by
  simpa using List.all_eq_true.mp valid.inside c among

private theorem closing : tag? ('/' :: name ++ ']' :: rest) = some ('/' :: name, rest) :=
  tag?_cons_append (by decide) fun _ among => (valid.stays_inside among).1

private theorem opening_append {more : List Char} (bare : ∀ c ∈ more, endsTag c = false) :
    tag? (name ++ more ++ ']' :: rest) = some (name ++ more, rest) := by
  have begins := valid.begins
  cases name with
  | nil => simp at begins
  | cons c name =>
    simp only [List.head?_cons, Option.any_some, Bool.and_eq_true] at begins
    refine tag?_cons_append begins.1 fun d among => ?_
    rcases List.mem_append.mp among with inside | behind
    · exact (valid.stays_inside (List.mem_cons_of_mem c inside)).1
    · exact bare d behind

private theorem opening : tag? (name ++ ']' :: rest) = some (name, rest) := by
  have alone := valid.opening_append rest (List.forall_mem_nil _)
  rwa [List.append_nil] at alone

omit rest

private theorem tagName_append (more : List Char) :
    tagName (name ++ more) = name ++ tagName more :=
  List.takeWhile_append_of_pos fun _ among => bne_iff_ne.mpr (valid.stays_inside among).2

private theorem tagParameter_append (more : List Char) :
    tagParameter (name ++ more) = tagParameter more := by
  rw [tagParameter, List.dropWhile_append_of_pos fun _ among =>
    bne_iff_ne.mpr (valid.stays_inside among).2]
  rfl

private theorem tagName_eq : tagName name = name := by
  have alone := valid.tagName_append []
  rw [List.append_nil] at alone
  exact alone.trans (List.append_nil name)

private theorem styleOf_eq : styleOf name = .ok name := by
  rw [styleOf, valid.canonical]
  rfl

private theorem harmless {parameter : List Char} (found : lookUp name parameter = .ok ())
    (start : Nat) :
    OpenTag.Harmless ⟨name, parameter, start⟩ where
  style := decide_eq_false valid.event
  found := by
    rw [OpenTag.lookUp, found]
    rfl

private theorem tagStep_append {more : List Char} (apart : tagName more = [])
    (opened : List OpenTag)
    (behind position : Nat) : tagStep opened behind position (name ++ more) =
      .ok (none, ⟨name, tagParameter more, behind⟩ :: opened) := by
  have begins := valid.begins
  unfold tagStep
  rw [valid.tagName_append, apart, List.append_nil, valid.tagParameter_append]
  split
  · simp at begins
  · rw [valid.styleOf_eq]
    rfl

private theorem tagStep_opening (opened : List OpenTag) (behind position : Nat) :
    tagStep opened behind position name = .ok (none, ⟨name, [], behind⟩ :: opened) := by
  have alone := valid.tagStep_append (rfl : tagName [] = []) opened behind position
  rwa [List.append_nil] at alone

/-- A closing tag takes away the innermost open tag of its name. -/
private theorem tagStep_closing {opened : List OpenTag} (among : ∃ tag ∈ opened, tag.style = name)
    (behind position : Nat) : ∃ tag ∈ opened, tagStep opened behind position ('/' :: name) =
      .ok (some tag, opened.eraseP (·.style = name)) := by
  have inside : tagName ('/' :: name) = '/' :: name := by
    have tail := valid.tagName_eq
    rw [tagName] at tail ⊢
    rw [List.takeWhile_cons_of_pos (by decide), tail]
  have named : name.isEmpty = false := by
    have begins := valid.begins
    cases name with
    | nil => simp at begins
    | cons c name => rfl
  have finds : (opened.find? (·.style = name)).isSome := by
    simpa using among
  obtain ⟨tag, found⟩ := Option.isSome_iff_exists.mp finds
  refine ⟨tag, List.mem_of_find?_eq_some found, ?_⟩
  simp only [tagStep, inside, valid.trimmed, named, Bool.false_eq_true, if_false,
    valid.styleOf_eq, bind, Except.bind, found]

end TagName

theorem tagName_step : TagName "step".toList := by
  constructor <;> decide +kernel

theorem tagName_success : TagName "success".toList := by
  constructor <;> decide +kernel

theorem tagName_warning : TagName "warning".toList := by
  constructor <;> decide +kernel

theorem tagName_dim : TagName "dim".toList := by
  constructor <;> decide +kernel

theorem tagName_boldRed : TagName "bold red".toList := by
  constructor <;> decide +kernel

/-- Text in a style. -/
def styled (name text : List Char) : List Char :=
  '[' :: (name ++ ']' :: (text ++ '[' :: ('/' :: name ++ [']'])))

section

variable {check : EventCheck} {name text rest : List Char} {opened : List OpenTag}

/-- Where a style is open it may be closed. -/
theorem shows_closing (valid : TagName name) (shows : ∀ opened, Shows check opened 0 rest)
    (among : ∃ tag ∈ opened, tag.style = name) (slashes : Nat) :
    Shows check opened slashes ('[' :: ('/' :: name ++ ']' :: rest)) := by
  refine shows_tag (valid.closing rest) (fun _ => shows _) fun _ behind position => ?_
  obtain ⟨tag, open_, step⟩ := valid.tagStep_closing among behind position
  refine ⟨some tag, _, step, ?_, fun other stays => .inl (List.mem_of_mem_eraseP stays), shows _⟩
  rintro _ ⟨⟩
  exact open_

/-- Styled text shows if what is inside it does. -/
theorem shows_styled_of_inner (valid : TagName name) (inner : ∀ start,
    Shows check (⟨name, [], start⟩ :: opened) 0 (text ++ '[' :: ('/' :: name ++ ']' :: rest))) :
    Shows check opened 0 (styled name text ++ rest) := by
  have steps : Steps check opened name (text ++ '[' :: ('/' :: name ++ ']' :: rest)) := by
    intro behind position
    refine ⟨none, _, valid.tagStep_opening opened behind position, nofun, ?_, inner behind⟩
    rw [List.forall_mem_cons]
    exact ⟨.inr (valid.harmless valid.found behind), fun tag stays => .inl stays⟩
  have whole : Shows check opened 0 _ :=
    shows_tag (valid.opening _) (fun odd => nomatch odd) fun _ => steps
  simpa only [styled, List.cons_append, List.append_assoc, List.nil_append] using whole

/-- Styled text without a tag shows. It leaves the styles that were open, and its own if it ends
with a backslash that makes its closing tag show. -/
theorem shows_styled (valid : TagName name) (tagless : tagless text = true)
    (shows : ∀ opened, Shows check opened 0 rest) (opened : List OpenTag) :
    Shows check opened 0 (styled name text ++ rest) := by
  refine shows_styled_of_inner valid fun start => ?_
  have among : ∃ tag ∈ (⟨name, [], start⟩ :: opened : List OpenTag), tag.style = name :=
    ⟨_, List.mem_cons_self, rfl⟩
  exact shows_text tagless (by simp [endsTag]) (shows_closing valid shows among) 0

/-- Styled text may end with a tag that opens another style. -/
theorem shows_styled_opening {other parameter : List Char} (valid : TagName name)
    (named : TagName other) (tagless : tagless text = true)
    (bare : ∀ d ∈ parameter, endsTag d = false) (found : lookUp other parameter = .ok ())
    (shows : ∀ opened, Shows check opened 0 rest) (opened : List OpenTag) :
    Shows check opened 0
      (styled name (text ++ '[' :: (other ++ '=' :: parameter ++ [']'])) ++ rest) := by
  have closes {others : List OpenTag} (among : ∃ tag ∈ others, tag.style = name) :
      Shows check others 0 ('[' :: ('/' :: name ++ ']' :: rest)) :=
    shows_closing valid shows among 0
  have tagged (start slashes : Nat) : Shows check (⟨name, [], start⟩ :: opened) slashes
      ('[' :: (other ++ '=' :: parameter ++ ']' :: ('[' :: ('/' :: name ++ ']' :: rest)))) := by
    have bare' : ∀ c ∈ '=' :: parameter, endsTag c = false :=
      List.forall_mem_cons.mpr ⟨by decide, bare⟩
    refine shows_tag (named.opening_append _ bare') (fun _ => closes ⟨_, List.mem_cons_self, rfl⟩)
      fun _ behind position => ?_
    refine ⟨none, _, named.tagStep_append rfl _ behind position, nofun, ?_,
      closes ⟨_, List.mem_cons_of_mem _ List.mem_cons_self, rfl⟩⟩
    rw [List.forall_mem_cons]
    exact ⟨.inr (named.harmless found behind), fun tag stays => .inl stays⟩
  refine shows_styled_of_inner valid fun start => ?_
  have inner := shows_text tagless (by simp [endsTag]) (tagged start) 0
  simpa only [List.append_assoc, List.cons_append, List.nil_append] using inner

end

end PageHarvest.Console
