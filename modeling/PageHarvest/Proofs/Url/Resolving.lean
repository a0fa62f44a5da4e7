import PageHarvest.Proofs.Traverse
import PageHarvest.Proofs.Url.Parts

/-! # Links that go astray

Resolving a link against a page gives an address again, with two exceptions. Without a page the
link stays as it is. And where neither the page nor the link has an authority, the path that comes
out may begin like one.
-/

namespace PageHarvest.Url

open Text

/-! ## Resolving -/

/-- Every scheme with relative addresses has an authority. -/
theorem isOneOf_authoritySchemes {scheme : List Char}
    (relative : isOneOf relativeSchemes scheme = true) :
    isOneOf authoritySchemes scheme = true := by
  have all : relativeSchemes.all authoritySchemes.contains = true := by decide
  exact List.all_eq_true.mp all _ (List.contains_iff_mem.mp relative)

section

variable {base link text : List Char} {fault : Fault}

private theorem join_nil (link : List Char) : join [] link = .ok link := rfl

/-- What is made of a link and the address of its page. -/
def joined (page url : Url) (link : List Char) : List Char :=
  if url.scheme = page.scheme ∧ isOneOf relativeSchemes page.scheme = true then
    if url.authority = [] then toText (resolve page { url with authority := page.authority })
    else toText url
  else link

/-- A link joined to a page is resolved between the parts of both. -/
private theorem join_eq (paged : base ≠ []) (given : link ≠ []) : join base link = (do
    let page ← parse base
    let url ← parseWith page.scheme link
    return joined page url link) := by
  have paged : base.isEmpty = false := by simpa using paged
  have given : link.isEmpty = false := by simpa using given
  simp only [join, paged, given, Bool.false_eq_true, if_false]
  refine bind_congr fun page => bind_congr fun url => ?_
  rw [joined]
  by_cases same : url.scheme = page.scheme ∧ isOneOf relativeSchemes page.scheme = true
  · obtain ⟨scheme, relative⟩ := same
    have located := isOneOf_authoritySchemes relative
    by_cases own : url.authority = []
    · simp [scheme, relative, located, own]
    · simp [scheme, relative, located, own]
  · have other : (url.scheme != page.scheme || !isOneOf relativeSchemes url.scheme) = true := by
      by_cases scheme : url.scheme = page.scheme
      · simpa [scheme] using same
      · simp [scheme]
    rw [if_pos other, if_neg same]

/-- Resolving against a page succeeds just if both addresses can be cut. -/
theorem join_eq_ok_iff (paged : base ≠ []) (given : link ≠ []) : join base link = .ok text ↔
    ∃ page url, parse base = .ok page ∧ parseWith page.scheme link = .ok url ∧
      joined page url link = text := by
  rw [join_eq paged given]
  constructor
  · intro resolved
    obtain ⟨page, based, resolved⟩ := exists_of_bind_eq_ok resolved
    obtain ⟨url, linked, resolved⟩ := exists_of_bind_eq_ok resolved
    exact ⟨page, url, based, linked, Except.ok.inj resolved⟩
  · rintro ⟨page, url, based, linked, rfl⟩
    rw [based]
    change (do
      let url ← parseWith page.scheme link
      return joined page url link) = _
    rw [linked]
    rfl

/-- Whether a text is refused has nothing to do with the scheme it takes. -/
theorem parseWith_eq_error_iff_parse {default : List Char} :
    parseWith default link = .error fault ↔ parse link = .error fault := by
  rw [parse, parseWith_eq_error_iff, parseWith_eq_error_iff]

/-- Resolving fails just if there is a page and its address or the link is refused. -/
theorem join_eq_error_iff (given : link ≠ []) : join base link = .error fault ↔
    base ≠ [] ∧ (parse base = .error fault ∨
      (∃ page, parse base = .ok page) ∧ parse link = .error fault) := by
  by_cases paged : base = []
  · rw [paged, join_nil]
    simp
  · rw [join_eq paged given]
    cases based : parse base with
    | error other => simp [paged, bind, Except.bind]
    | ok page =>
      rw [← @parseWith_eq_error_iff_parse link fault page.scheme]
      change (do
        let url ← parseWith page.scheme link
        return joined page url link) = .error fault ↔ _
      cases parseWith page.scheme link with
      | error other => simp [paged, bind, Except.bind]
      | ok url => simp [paged, bind, Except.bind, pure, Except.pure]

/-! ## Cutting what came out -/

private theorem exists_parse_of_accepted (accepted : refusal? (authorityOf text) = none) :
    ∃ url, parse text = .ok url := by
  rw [parse, parseWith_eq, accepted]
  exact ⟨_, rfl⟩

/-- An address is one again when it is put together with an authority that was cut from a text. -/
theorem exists_parse_toText {default origin : List Char} {source url : Url}
    (cut : CutFrom default origin source) (same : url.authority = source.authority)
    (proper : Proper url.scheme) (given : url.authority ≠ []) :
    ∃ other, parse (toText url) = .ok other := by
  have authority : url.authority = authorityOf origin := same.trans cut.authority
  have solid : Solid url.authority := authority ▸ solid_authorityOf origin
  apply exists_parse_of_accepted
  rw [authorityOf_toText proper solid given, authority]
  exact cut.accepted

private theorem CutFrom.proper {default : List Char} {url : Url} (cut : CutFrom default text url)
    (proper : Proper default) : Proper url.scheme := by
  rw [cut.scheme]
  exact proper_schemed proper (cleaned text)

/-- Resolving a link gives a text that is no address. -/
inductive Strays (base link : List Char) (fault : Fault) : Prop
  /-- There is no page, and the link is no address itself. -/
  | unpaged (unpaged : base = []) (refused : parse link = .error fault)
  /-- Neither the page nor the link has an authority, the link takes the scheme of the page, and the
  path that comes out begins like an authority that is refused. -/
  | unlocated {page url : Url} (paged : base ≠ []) (based : parse base = .ok page)
      (bare : page.authority = []) (relative : isOneOf relativeSchemes page.scheme = true)
      (linked : parseWith page.scheme link = .ok url) (same : url.scheme = page.scheme)
      (own : url.authority = []) (refused : parse (toText (resolve page url)) = .error fault)

private theorem resolve_authority (page url : Url) :
    (resolve page url).authority = url.authority := by
  rw [resolve]
  split <;> rfl

private theorem resolve_scheme (page url : Url) : (resolve page url).scheme = url.scheme := by
  rw [resolve]
  split <;> rfl

private theorem not_refused {fault : Fault} (accepted : ∃ url, parse text = .ok url) :
    parse text ≠ .error fault := by
  obtain ⟨url, parsed⟩ := accepted
  rw [parsed]
  exact nofun

/-- What is made of a link is refused only where neither it nor its page has an authority. -/
theorem refused_joined_iff {page url : Url} (based : parse base = .ok page)
    (linked : parseWith page.scheme link = .ok url) :
    parse (joined page url link) = .error fault ↔ page.authority = [] ∧
      isOneOf relativeSchemes page.scheme = true ∧ url.scheme = page.scheme ∧
        url.authority = [] ∧ parse (toText (resolve page url)) = .error fault := by
  have pageCut := cutFrom_of_parseWith based
  have urlCut := cutFrom_of_parseWith linked
  have proper := urlCut.proper (pageCut.proper proper_nil)
  have unchanged (bare : page.authority = []) (own : url.authority = []) :
      { url with authority := page.authority } = url := by
    rw [bare, ← own]
  constructor
  · intro refused
    rw [joined] at refused
    split at refused
    · next alike =>
      split at refused
      · next own =>
        by_cases bare : page.authority = []
        · rw [unchanged bare own] at refused
          exact ⟨bare, alike.2, alike.1, own, refused⟩
        · -- the authority of the page comes before the path
          refine absurd refused (not_refused (exists_parse_toText pageCut ?_ ?_ ?_))
          · rw [resolve_authority]
          · rwa [resolve_scheme]
          · rwa [resolve_authority]
      · next given =>
        exact absurd refused (not_refused (exists_parse_toText urlCut rfl proper given))
    · exact absurd refused (not_refused (exists_parse_of_accepted urlCut.accepted))
  · rintro ⟨bare, relative, same, own, refused⟩
    rwa [joined, if_pos ⟨same, relative⟩, if_pos own, unchanged bare own]

/-- What came of resolving a link is an address unless the link strays. -/
theorem strays_iff (given : link ≠ []) :
    (∃ text, join base link = .ok text ∧ parse text = .error fault) ↔ Strays base link fault := by
  by_cases paged : base = []
  · constructor
    · rintro ⟨text, resolved, refused⟩
      rw [paged, join_nil] at resolved
      cases resolved
      exact .unpaged paged refused
    · intro strays
      cases strays with
      | unpaged _ refused => exact ⟨link, by rw [paged, join_nil], refused⟩
      | unlocated given => exact absurd paged given
  · constructor
    · rintro ⟨text, resolved, refused⟩
      obtain ⟨page, url, based, linked, rfl⟩ := (join_eq_ok_iff paged given).mp resolved
      obtain ⟨bare, relative, same, own, refused⟩ := (refused_joined_iff based linked).mp refused
      exact .unlocated paged based bare relative linked same own refused
    · intro strays
      cases strays with
      | unpaged unpaged _ => exact absurd unpaged paged
      | unlocated _ based bare relative linked same own refused =>
        exact ⟨_, (join_eq_ok_iff paged given).mpr ⟨_, _, based, linked, rfl⟩,
          (refused_joined_iff based linked).mpr ⟨bare, relative, same, own, refused⟩⟩

/-- A page whose scheme has relative addresses, but no authority. -/
def Unlocated (base : List Char) : Prop :=
  ∃ page, parse base = .ok page ∧ page.authority = [] ∧
    isOneOf relativeSchemes page.scheme = true

theorem Strays.unlocated_base (strays : Strays base link fault) : Unlocated base := by
  cases strays with
  | unpaged unpaged refused =>
    rw [unpaged]
    exact ⟨{}, by decide, rfl, by decide⟩
  | unlocated paged based bare relative => exact ⟨_, based, bare, relative⟩

/-- Four slashes are an authority that is not there and a path that begins with two of them. -/
theorem parseWith_slashes (default : List Char) :
    parseWith default "////[".toList = .ok { scheme := default, path := "//[".toList } := by
  have accepted : refusal? (authorityOf "////[".toList) = none := by decide
  have parts : located (schemed [] (cleaned "////[".toList)).2 = ([], "//[".toList) := by decide
  have scheme : (schemed default (cleaned "////[".toList)).1 = default := rfl
  have uncut : cutParameters "//[".toList = ("//[".toList, []) := by decide
  have whole : (if isOneOf parameterSchemes default then cutParameters "//[".toList
      else ("//[".toList, [])) = ("//[".toList, []) := by
    rw [uncut, ite_self]
  have address : assembled default ([], "//[".toList) =
      { scheme := default, path := "//[".toList } := by
    change (let parts := if isOneOf parameterSchemes default then cutParameters "//[".toList
      else ("//[".toList, [])
      ({ scheme := default, path := parts.1, parameters := parts.2 } : Url)) = _
    rw [whole]
  rw [parseWith_eq, accepted, parts, scheme]
  exact congrArg Except.ok address

private theorem joinPaths_slashes (path : List Char) :
    joinPaths path "//[".toList = "//[".toList := by
  have segments : splitAt ['/'] "//[".toList = [[], [], ['[']] :=
    splitAt_intercalate_char [] [[], ['[']] (by decide)
  have rooted : followedBy path "//[".toList = splitAt ['/'] "//[".toList := if_pos rfl
  rw [joinPaths, rooted, segments]
  rfl

/-- On every such page some link strays. -/
theorem Unlocated.exists_strays (unlocated : Unlocated base) :
    ∃ link fault, trim link = link ∧ link ≠ [] ∧ Strays base link fault := by
  obtain ⟨page, based, bare, relative⟩ := unlocated
  by_cases paged : base = []
  · exact ⟨"//[".toList, .bracketUnpaired, by decide, by decide, .unpaged paged (by decide)⟩
  · refine ⟨"////[".toList, .bracketUnpaired, by decide, by decide,
      .unlocated paged based bare relative (parseWith_slashes page.scheme) rfl rfl ?_⟩
    have proper := (cutFrom_of_parseWith based).proper proper_nil
    have resolved : resolve page { scheme := page.scheme, path := "//[".toList } =
        { scheme := page.scheme, path := "//[".toList } := by
      have given : ¬ ("//[".toList.isEmpty && [].isEmpty (α := Char)) = true := by decide
      rw [resolve, if_neg given, joinPaths_slashes]
    have text : toText { scheme := page.scheme, path := "//[".toList } =
        front page.scheme ++ '/' :: '/' :: ['['] := by
      simp [toText, marked, front]
    rw [resolved, text, parse, parseWith_eq_error_iff, authorityOf_front proper]
    decide

end

end PageHarvest.Url
