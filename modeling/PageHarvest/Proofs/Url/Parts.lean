import PageHarvest.Proofs.Text.Spelling
import PageHarvest.Url.Join

/-! # Which texts are addresses

A text is refused as an address for its authority alone. An address that has an authority keeps it
when it is put together and cut again, so what was cut once and has an authority is an address
again; without an authority the path may come to stand in its place.
-/

namespace PageHarvest.Url

open Text

/-! ## Cutting -/

/-- A text as it is cut: without the characters that are ignored. -/
def cleaned (text : List Char) : List Char := text.filter (!isIgnored ·)

/-- The scheme of a text, the one given if it has none, and what follows. -/
def schemed (default text : List Char) : List Char × List Char :=
  (scheme? text).getD (default, text)

/-- The authority at the front of a text without a scheme, and what follows. -/
def located (rest : List Char) : List Char × List Char :=
  match rest with
  | '/' :: '/' :: rest => rest.span (!endsAuthority ·)
  | _ => ([], rest)

/-- The address of a scheme, an authority and what follows them. -/
def assembled (scheme : List Char) (located : List Char × List Char) : Url :=
  let (rest, fragment) := cutAt '#' located.2
  let (path, query) := cutAt '?' rest
  let (path, parameters) :=
    if isOneOf parameterSchemes scheme then cutParameters path else (path, [])
  { scheme, authority := located.1, path, parameters, query, fragment }

/-- The authority that is looked for in a text. -/
def authorityOf (text : List Char) : List Char := (located (schemed [] (cleaned text)).2).1

/-- Why an authority cannot stand, if it cannot. -/
def refusal? (authority : List Char) : Option Fault :=
  if authority.contains '[' != authority.contains ']' then some .bracketUnpaired
  else if authority.any hidesSeparator then some (.separatorHidden authority)
  else none

section

variable {default text : List Char}

private theorem schemed_snd (default text : List Char) :
    (schemed default text).2 = (schemed [] text).2 := by
  rw [schemed, schemed]
  cases scheme? text with
  | none => rfl
  | some found => rfl

/-- Cutting a text fails just with what is wrong with its authority. -/
theorem parseWith_eq (default text : List Char) : parseWith default text =
    match refusal? (authorityOf text) with
    | some fault => .error fault
    | none => .ok (assembled (schemed default (cleaned text)).1
        (located (schemed [] (cleaned text)).2)) := by
  have work : parseWith default text = (do
      let parts := located (schemed default (cleaned text)).2
      checkAuthority parts.1
      if parts.1.any hidesSeparator then throw (.separatorHidden parts.1)
      return assembled (schemed default (cleaned text)).1 parts) := rfl
  rw [work, schemed_snd default, authorityOf, refusal?]
  generalize located (schemed [] (cleaned text)).2 = parts
  dsimp only
  rw [checkAuthority]
  split
  · rfl
  · split
    · rfl
    · rfl

/-- A text is refused as an address exactly when its authority is. -/
theorem parseWith_eq_error_iff {fault : Fault} :
    parseWith default text = .error fault ↔ refusal? (authorityOf text) = some fault := by
  rw [parseWith_eq]
  cases refusal? (authorityOf text) with
  | none => simp
  | some other => simp

/-- What an address has of its text. -/
structure CutFrom (default text : List Char) (url : Url) : Prop where
  accepted : refusal? (authorityOf text) = none
  authority : url.authority = authorityOf text
  scheme : url.scheme = (schemed default (cleaned text)).1

theorem cutFrom_of_parseWith {url : Url} (parsed : parseWith default text = .ok url) :
    CutFrom default text url := by
  rw [parseWith_eq] at parsed
  cases accepted : refusal? (authorityOf text) with
  | some fault =>
    rw [accepted] at parsed
    cases parsed
  | none =>
    rw [accepted] at parsed
    cases parsed
    exact ⟨accepted, rfl, rfl⟩

end

/-! ## Schemes -/

private theorem isLetter_eq_isAlpha (c : Char) : isLetter c = c.isAlpha := by
  have small : (decide ('a' ≤ c) && decide (c ≤ 'z')) = c.isLower := rfl
  have capital : (decide ('A' ≤ c) && decide (c ≤ 'Z')) = c.isUpper :=
    (Bool.decide_and _ _).symm
  rw [isLetter, small, capital, Bool.or_comm]
  rfl

private theorem isAlpha_toLower {c : Char} (letter : c.isAlpha = true) :
    c.toLower.isAlpha = true :=
  (Bool.or_eq_true _ _).mpr (.inr (Text.isLower_toLower letter))

private theorem inScheme_toLower {c : Char} (inside : inScheme c = true) :
    inScheme c.toLower = true := by
  by_cases capital : c.isUpper = true
  · have letter : isLetter c.toLower = true := by
      rw [isLetter_eq_isAlpha]
      exact isAlpha_toLower ((Bool.or_eq_true _ _).mpr (.inl capital))
    rw [inScheme, letter, Bool.true_or, Bool.true_or, Bool.true_or, Bool.true_or]
  · rwa [Text.toLower_of_not_isUpper capital]

/-- A scheme as it is written: a letter and more characters of schemes, if it is there. -/
structure Proper (scheme : List Char) : Prop where
  front : ∀ c ∈ scheme.head?, isLetter c = true
  inside : ∀ c ∈ scheme, inScheme c = true

theorem proper_nil : Proper [] := ⟨nofun, nofun⟩

private theorem not_mem_of_proper {scheme : List Char} (proper : Proper scheme) {c : Char}
    (outside : inScheme c = false) : c ∉ scheme := by
  intro member
  rw [proper.inside c member] at outside
  cases outside

/-- A scheme that is found is a proper one, in front of what follows. -/
private theorem scheme?_eq_some {text scheme after : List Char}
    (found : scheme? text = some (scheme, after)) : Proper scheme ∧ after <:+ text := by
  rw [scheme?] at found
  split at found
  · next c before rest cutHere =>
    split at found
    · next sound =>
      cases found
      obtain ⟨letter, inside⟩ := (Bool.and_eq_true _ _).mp sound
      have whole := append_of_cut cutHere
      refine ⟨⟨?_, ?_⟩, ⟨_, whole⟩⟩
      · rintro _ ⟨⟩
        rw [isLetter_eq_isAlpha] at letter ⊢
        exact isAlpha_toLower letter
      · intro d member
        obtain ⟨original, among, rfl⟩ := List.mem_map.mp member
        apply inScheme_toLower
        rcases List.mem_cons.mp among with rfl | later
        · rw [inScheme, letter, Bool.true_or, Bool.true_or, Bool.true_or, Bool.true_or]
        · exact List.all_eq_true.mp inside original later
    · cases found
  · cases found

theorem proper_schemed {default : List Char} (proper : Proper default) (text : List Char) :
    Proper (schemed default text).1 := by
  rw [schemed]
  cases found : scheme? text with
  | none => exact proper
  | some parts => exact (scheme?_eq_some found).1

/-- A scheme with its colon, if it is there. -/
def front (scheme : List Char) : List Char := if scheme.isEmpty then [] else scheme ++ [':']

/-- What stands behind a scheme is what stands there, if no scheme comes before a slash. -/
theorem schemed_front {scheme : List Char} (proper : Proper scheme) (rest : List Char) :
    (schemed [] (front scheme ++ '/' :: rest)).2 = '/' :: rest := by
  cases scheme with
  | nil =>
    have none : scheme? ('/' :: rest) = none := by
      have differ : [':'].isPrefixOf ('/' :: rest) = false := rfl
      rw [scheme?, cut, if_neg (by simp [differ])]
      cases cut [':'] rest with
      | none => rfl
      | some parts => rfl
    change (schemed [] ('/' :: rest)).2 = _
    rw [schemed, none]
    rfl
  | cons c more =>
    have colon : ':' ∉ c :: more := not_mem_of_proper proper (by decide)
    have letter : isLetter c = true := proper.front c rfl
    have inside : more.all inScheme = true :=
      List.all_eq_true.mpr fun d member => proper.inside d (List.mem_cons_of_mem _ member)
    have whole : front (c :: more) ++ '/' :: rest = (c :: more) ++ ':' :: '/' :: rest := by
      simp [front]
    rw [whole, schemed, scheme?, cut_append colon]
    simp only [letter, inside, Bool.and_self, if_true, Option.getD_some]

/-! ## Putting together -/

/-- Nothing in an authority is ignored or ends it. -/
def Solid (authority : List Char) : Prop :=
  ∀ c ∈ authority, isIgnored c = false ∧ endsAuthority c = false

private theorem isIgnored_of_endsAuthority {c : Char} (ends : endsAuthority c = true) :
    isIgnored c = false := by
  simp only [endsAuthority, Bool.or_eq_true, beq_iff_eq] at ends
  rcases ends with (rfl | rfl) | rfl <;> rfl

private theorem isIgnored_of_inScheme {c : Char} (inside : inScheme c = true) :
    isIgnored c = false := by
  by_contra ignored
  simp only [isIgnored, Bool.not_eq_false, Bool.or_eq_true, beq_iff_eq] at ignored
  rcases ignored with (rfl | rfl) | rfl <;> exact absurd inside (by decide)

/-- No authority holds what ends one. -/
theorem solid_authorityOf (text : List Char) : Solid (authorityOf text) := by
  have behind : ∀ c ∈ (schemed [] (cleaned text)).2, isIgnored c = false := by
    intro c member
    have kept : c ∈ cleaned text := by
      rw [schemed] at member
      cases found : scheme? (cleaned text) with
      | none =>
        rw [found] at member
        exact member
      | some parts =>
        rw [found] at member
        exact (scheme?_eq_some found).2.subset member
    simpa using (List.mem_filter.mp kept).2
  rw [authorityOf]
  generalize (schemed [] (cleaned text)).2 = rest at behind ⊢
  unfold located
  split
  · next rest =>
    intro c member
    rw [List.span_eq_takeWhile_dropWhile] at member
    have inRest := (List.takeWhile_prefix _).subset member
    have stays := List.mem_takeWhile_imp member
    exact ⟨behind c (List.mem_cons_of_mem _ (List.mem_cons_of_mem _ inRest)), by simpa using stays⟩
  · exact nofun

private theorem cleaned_append (one other : List Char) :
    cleaned (one ++ other) = cleaned one ++ cleaned other :=
  List.filter_append ..

private theorem cleaned_eq_self {text : List Char} (kept : ∀ c ∈ text, isIgnored c = false) :
    cleaned text = text :=
  List.filter_eq_self.mpr fun c member => by rw [kept c member]; rfl

private theorem cleaned_front {scheme : List Char} (proper : Proper scheme) :
    cleaned (front scheme) = front scheme := by
  apply cleaned_eq_self
  intro c member
  rw [front] at member
  split at member
  · cases member
  · rcases List.mem_append.mp member with inScheme | colon
    · exact isIgnored_of_inScheme (proper.inside c inScheme)
    · obtain rfl := List.mem_singleton.mp colon
      rfl

/-- Without a scheme or behind one, two slashes announce an authority. -/
theorem authorityOf_front {scheme : List Char} (proper : Proper scheme) (rest : List Char) :
    authorityOf (front scheme ++ '/' :: '/' :: rest) =
      (cleaned rest).takeWhile (!endsAuthority ·) := by
  have kept : cleaned (front scheme ++ '/' :: '/' :: rest) =
      front scheme ++ '/' :: '/' :: cleaned rest := by
    rw [cleaned_append, cleaned_front proper]
    rfl
  rw [authorityOf, kept, schemed_front proper, located, List.span_eq_takeWhile_dropWhile]

/-- What follows the authority of an address. -/
def trailing (url : Url) : List Char :=
  let path := url.path ++ marked ';' url.parameters
  (if !path.isEmpty && path.head? != some '/' then '/' :: path else path) ++
    marked '?' url.query ++ marked '#' url.fragment

private theorem toText_eq {url : Url} (given : url.authority ≠ []) :
    toText url = front url.scheme ++ '/' :: '/' :: (url.authority ++ trailing url) := by
  have hasAuthority : (!url.authority.isEmpty) = true := by simpa using given
  have slashes : "//".toList = ['/', '/'] := rfl
  simp only [toText, hasAuthority, Bool.true_or, if_true, trailing, front, slashes]
  simp only [List.append_assoc, List.cons_append, List.nil_append]

/-- What follows an authority ends it. -/
theorem trailing_ends (url : Url) : ∀ c ∈ (trailing url).head?, endsAuthority c = true := by
  have marks : ∀ c ∈ (marked '?' url.query ++ marked '#' url.fragment).head?,
      endsAuthority c = true := by
    rw [marked, marked]
    split
    · split
      · exact nofun
      · rintro _ ⟨⟩
        rfl
    · rintro _ ⟨⟩
      rfl
  rw [trailing, List.append_assoc]
  generalize url.path ++ marked ';' url.parameters = path
  split
  · rintro _ ⟨⟩
    rfl
  · next rooted =>
    cases path with
    | nil => exact marks
    | cons c rest =>
      rintro _ ⟨⟩
      obtain rfl : c = '/' := by simpa using rooted
      rfl

/-- An authority is found again in the text of its address. -/
theorem authorityOf_toText {url : Url} (proper : Proper url.scheme) (solid : Solid url.authority)
    (given : url.authority ≠ []) : authorityOf (toText url) = url.authority := by
  have kept : cleaned url.authority = url.authority :=
    cleaned_eq_self fun c member => (solid c member).1
  have passed : ∀ c ∈ url.authority, (!endsAuthority c) = true := fun c member => by
    rw [(solid c member).2]
    rfl
  have stops : (cleaned (trailing url)).takeWhile (!endsAuthority ·) = [] := by
    have ends := trailing_ends url
    cases trail : trailing url with
    | nil => rfl
    | cons c rest =>
      have stop : endsAuthority c = true := ends c (by rw [trail]; rfl)
      have here : cleaned (c :: rest) = c :: cleaned rest :=
        List.filter_cons_of_pos (by rw [isIgnored_of_endsAuthority stop]; rfl)
      rw [here, List.takeWhile_cons_of_neg (by rw [stop]; decide)]
  rw [toText_eq given, authorityOf_front proper, cleaned_append, kept,
    List.takeWhile_append_of_pos passed, stops, List.append_nil]

end PageHarvest.Url
