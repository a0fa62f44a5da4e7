import PageHarvest.Pipeline.Run
import PageHarvest.Proofs.Config.Checked
import PageHarvest.Proofs.Text.Pieces
import PageHarvest.Proofs.Traverse

/-! # What a configuration builds

A configuration whose values are sound builds the populator that its members describe, unless it
names no kind of populator, or a crawler without a path to its links or with an extension that has
no place for the page number. These are all faults of which the user is told.
-/

namespace PageHarvest

open Text

/-- Resolving links is not putting a text in front of them: it drops the empty one. -/
theorem LinkFilter.absolutize_ne_prepend (base front : String) :
    LinkFilter.absolutize base ≠ .prepend front := by
  intro same
  have verdict := congrFun same ""
  have drops : LinkFilter.absolutize base "" = .drop := rfl
  rw [drops] at verdict
  cases verdict

/-- The word for a kind of populator. -/
def PopulatorKind.word : PopulatorKind → String
  | .single => "single"
  | .multiple => "multiple"

/-- A text names a kind exactly if it spells its word, with blanks around it. -/
private theorem PopulatorKind.ofText?_eq_some_iff {text : String} {kind : PopulatorKind} :
    ofText? text = some kind ↔ lower (trim text.toList) = kind.word.toList := by
  rw [ofText?]
  split
  · rename_i single
    rw [single]
    cases kind with
    | single => exact iff_of_true rfl rfl
    | multiple => exact iff_of_false nofun (by decide)
  · rename_i notSingle
    split
    · rename_i multiple
      rw [multiple]
      cases kind with
      | single => exact iff_of_false nofun (by decide)
      | multiple => exact iff_of_true rfl rfl
    · rename_i notMultiple
      refine iff_of_false nofun ?_
      cases kind with
      | single => exact notSingle
      | multiple => exact notMultiple

private theorem Path.isEmpty_iff {path : Path} : path.isEmpty = true ↔ path = .empty := by
  cases path with
  | empty => exact iff_of_true rfl rfl
  | anchored start steps => simp [isEmpty, length]

namespace Paging

variable {mode : Mode} {extension : String} {pages : Option Nat}

private theorem ofMembers_of_none (sound : fault? mode extension pages = none) :
    ofMembers mode extension pages = .ok ⟨mode, extension, pages, sound⟩ := by
  unfold ofMembers
  split
  · rfl
  · rename_i found
    cases sound.symm.trans found

private theorem ofMembers_of_some {fault : Fault}
    (refused : fault? mode extension pages = some fault) :
    ofMembers mode extension pages = .error fault := by
  unfold ofMembers
  split
  · rename_i found
    cases refused.symm.trans found
  · rename_i found
    rw [Option.some.inj (refused.symm.trans found)]

end Paging

namespace CrawlConfig

variable {config : CrawlConfig}

/-! ## The parts of a crawler -/

/-- No path to links is given, or one that compiles to no step. -/
def Unlinked (config : CrawlConfig) : Prop :=
  config.linkPath = none ∨ config.linkPath = some "" ∨
    ∃ text, config.linkPath = some text ∧ (Path.compile text).1 = .empty

private theorem buildLinkPath_of_named {text : String} (given : config.linkPath = some text)
    (some : text ≠ "") :
    config.buildLinkPath =
      if (Path.compile text).1 = .empty then .error .linkPathEmpty
        else .ok (Path.compile text) := by
  rw [buildLinkPath, given]
  split
  · cases ‹_ = none›
  · rename_i same
    cases same
    exact absurd rfl some
  · rename_i same
    cases same
    simp only [Path.isEmpty_iff]

private theorem buildLinkPath_of_unlinked (unlinked : config.Unlinked) :
    ∃ fault, fault ≠ .workersRefused ∧ config.buildLinkPath = .error fault := by
  obtain none | empty | ⟨text, given, bare⟩ := unlinked
  · exact ⟨.linkPathMissing, nofun, by rw [buildLinkPath, none]⟩
  · exact ⟨.linkPathMissing, nofun, by rw [buildLinkPath, empty]; rfl⟩
  · by_cases empty : text = ""
    · subst empty
      exact ⟨.linkPathMissing, nofun, by rw [buildLinkPath, given]; rfl⟩
    · exact ⟨.linkPathEmpty, nofun, by rw [buildLinkPath_of_named given empty, if_pos bare]⟩

private theorem buildLinkPath_of_linked (linked : ¬config.Unlinked) :
    ∃ text, config.linkPath = some text ∧ config.buildLinkPath = .ok (Path.compile text) := by
  cases given : config.linkPath with
  | none => exact absurd (.inl given) linked
  | some text =>
    have some : text ≠ "" := by
      rintro rfl
      exact linked (.inr (.inl given))
    have steps : (Path.compile text).1 ≠ .empty := fun bare =>
      linked (.inr (.inr ⟨text, given, bare⟩))
    exact ⟨text, rfl, by rw [buildLinkPath_of_named given some, if_neg steps]⟩

/-- The mode of a walk over pages of which so many are asked for. -/
def pagingMode (pages : Option Nat) : Paging.Mode := if pages.isSome then .fixed else .indefinite

private theorem fault?_pagingMode (extension : String) (pages : Option Nat) :
    Paging.fault? (pagingMode pages) extension pages =
      if Text.contains extension Paging.placeholder then none else some .placeholderMissing := by
  cases found : Text.contains extension Paging.placeholder <;> cases pages <;>
    simp [Paging.fault?, pagingMode, found]

private theorem contains_placeholder_iff {extension : String} :
    Text.contains extension Paging.placeholder = true ↔ ['\x7b', '\x7d'] <:+: extension.toList := by
  have given : Paging.placeholder.toList ≠ [] := by decide
  exact Text.contains_iff given

private theorem buildPaging_eq {extension : String} (given : config.paging = some extension) :
    config.buildPaging =
      ((Paging.checked (pagingMode config.maxPages) extension config.maxPages).result
        "Paging").mapError
        (.pagingRefused extension config.maxPages) := by
  rw [buildPaging, given]
  cases config.maxPages with
  | none => rfl
  | some n => rfl

/-- An extension of page addresses is given that has no place for the page number. -/
def Unpaged (config : CrawlConfig) : Prop :=
  ∃ extension, config.paging = some extension ∧ ¬ ['\x7b', '\x7d'] <:+: extension.toList

private theorem buildPaging_of_unpaged (unpaged : config.Unpaged) :
    ∃ fault, fault ≠ .workersRefused ∧ config.buildPaging = .error fault := by
  obtain ⟨extension, given, bare⟩ := unpaged
  have fault : Paging.fault? (pagingMode config.maxPages) extension config.maxPages =
      some .placeholderMissing := by
    rw [fault?_pagingMode, if_neg (mt contains_placeholder_iff.mp bare)]
  rw [buildPaging_eq given, Paging.checked, Paging.ofMembers_of_some fault]
  exact ⟨.pagingRefused extension config.maxPages _, nofun, rfl⟩

/-- The walk over pages that a configuration says. -/
structure Paged (config : CrawlConfig) (paging : Paging) : Prop where
  unset : config.paging = none → paging = .seedOnly
  set : ∀ extension, config.paging = some extension → paging.mode = pagingMode config.maxPages ∧
    paging.extension = extension ∧ paging.pages = config.maxPages

/-- A configuration whose extension, if there is one, has a place for the number builds its paging.
-/
private theorem buildPaging_of_paged (paged : ¬config.Unpaged) :
    ∃ paging, config.buildPaging = .ok paging ∧ config.Paged paging := by
  cases given : config.paging with
  | none =>
    refine ⟨.seedOnly, by rw [buildPaging, given], fun _ => rfl, fun extension set => ?_⟩
    cases given.symm.trans set
  | some extension =>
    have placed : ['\x7b', '\x7d'] <:+: extension.toList := by
      by_contra bare
      exact paged ⟨extension, given, bare⟩
    have sound : Paging.fault? (pagingMode config.maxPages) extension config.maxPages = none := by
      rw [fault?_pagingMode, if_pos (contains_placeholder_iff.mpr placed)]
    refine ⟨⟨_, extension, config.maxPages, sound⟩, ?_, ?_, ?_⟩
    · rw [buildPaging_eq given, Paging.checked, Paging.ofMembers_of_none sound]
      rfl
    · intro unset
      cases given.symm.trans unset
    · intro other set
      cases given.symm.trans set
      exact ⟨rfl, rfl, rfl⟩

/-! ## Crawlers -/

/-- A crawler that follows the links of a path text and is as a configuration says otherwise. -/
structure Realises (crawler : Crawler Float) (config : CrawlConfig) (text : String) : Prop where
  baseUrl : crawler.baseUrl = config.baseUrl
  linkPath : crawler.linkPath = (Path.compile text).1
  spec : crawler.spec = (SearchSpec.compile config.paths config.fields).1
  paging : config.Paged crawler.paging
  prefixed : ∀ front, config.linkPrefix = some front → front ≠ "" →
    crawler.linkFilter = some (.prepend front)
  resolved : (∀ front, config.linkPrefix = some front → front = "") →
    crawler.linkFilter = some (.absolutize config.baseUrl)
  prefixes : (∃ front, crawler.linkFilter = some (.prepend front)) ↔
    ∃ front, config.linkPrefix = some front ∧ front ≠ ""
  parallel : crawler.parallel = config.parallel
  workers : (crawler.workers : Int) = config.workers
  deadline : crawler.deadline = config.deadline
  inOrder : crawler.preserveOrder = true

private theorem linkFilter_of_front {front : String} (given : config.linkPrefix = some front)
    (some : front ≠ "") : config.linkFilter = .prepend front := by
  rw [linkFilter, given]
  split
  · cases ‹_ = none›
  · rename_i same
    cases same
    exact absurd rfl some
  · rename_i same
    cases same
    rfl

private theorem linkFilter_of_no_front
    (none : ∀ front, config.linkPrefix = some front → front = "") :
    config.linkFilter = .absolutize config.baseUrl := by
  rw [linkFilter]
  split
  · rfl
  · rfl
  · rename_i front more given
    exact absurd (none front given) more

/-- Links get something in front of them just if there is something to put there. -/
theorem linkFilter_eq_prepend_iff :
    (∃ front, config.linkFilter = .prepend front) ↔
      ∃ front, config.linkPrefix = some front ∧ front ≠ "" := by
  constructor
  · rintro ⟨front, filter⟩
    by_contra none
    have resolved : config.linkFilter = .absolutize config.baseUrl :=
      linkFilter_of_no_front fun front set => by
        by_contra given
        exact none ⟨front, set, given⟩
    exact LinkFilter.absolutize_ne_prepend _ _ (resolved.symm.trans filter)
  · rintro ⟨front, set, given⟩
    exact ⟨front, linkFilter_of_front set given⟩

private theorem buildCrawler_of_unlinked (unlinked : config.Unlinked ∨ config.Unpaged)
    (spec : SearchSpec) :
    ∃ fault, fault ≠ .workersRefused ∧ config.buildCrawler spec = .error fault := by
  by_cases bare : config.Unlinked
  · obtain ⟨fault, told, refused⟩ := buildLinkPath_of_unlinked bare
    exact ⟨fault, told, by rw [buildCrawler, refused]; rfl⟩
  · obtain ⟨text, -, linked⟩ := buildLinkPath_of_linked bare
    obtain ⟨fault, told, refused⟩ := buildPaging_of_unpaged (unlinked.resolve_left bare)
    exact ⟨fault, told, by rw [buildCrawler, linked, refused]; rfl⟩

/-- A configuration with links and pages has a crawler that realises it. -/
private theorem buildCrawler_of_linked (valid : config.Valid) (linked : ¬config.Unlinked)
    (paged : ¬config.Unpaged) :
    ∃ text crawler, config.linkPath = some text ∧ Realises crawler config text ∧
      config.buildCrawler (SearchSpec.compile config.paths config.fields).1 =
        .ok (crawler, (Path.compile text).2) := by
  obtain ⟨text, given, linkPath⟩ := buildLinkPath_of_linked linked
  obtain ⟨paging, built, walks⟩ := buildPaging_of_paged paged
  have some := valid.workers
  have positive : 0 < config.workers.toNat := by omega
  refine ⟨text, _, given, ?_, by rw [buildCrawler, linkPath, built]; exact dif_pos positive⟩
  exact {
    baseUrl := rfl
    linkPath := rfl
    spec := rfl
    paging := walks
    prefixed := fun front set some => congrArg Option.some (linkFilter_of_front set some)
    resolved := fun none => congrArg Option.some (linkFilter_of_no_front none)
    prefixes := by
      rw [← linkFilter_eq_prepend_iff]
      exact exists_congr fun front => Option.some_inj
    parallel := rfl
    workers := Int.toNat_of_nonneg (by omega)
    deadline := rfl
    inOrder := rfl }

/-- What is wrong with a field text. -/
def fieldDiagnostics (text : String) : List Diagnostic :=
  match Path.compileField text with
  | .ok _ => []
  | .error diagnostic => [diagnostic]

/-- What is wrong with the texts of a configuration, that of the links aside: first the fields in
order, then the paths. -/
def textDiagnostics (config : CrawlConfig) : List Diagnostic :=
  config.fields.entries.flatMap (fun (_, text) => fieldDiagnostics text) ++
    config.paths.flatMap fun text => (Path.compile text).2

private theorem diagnostics_compile (config : CrawlConfig) :
    (SearchSpec.compile config.paths config.fields).2 = config.textDiagnostics := by
  have named : (fun entry => (compileNamed entry).2) = fun entry => fieldDiagnostics entry.2 := by
    funext entry
    rw [compileNamed, fieldDiagnostics]
    cases Path.compileField entry.2 <;> rfl
  simp only [SearchSpec.compile, textDiagnostics, List.flatMap_map, named]
  rfl

/-- The name of the populator, without blanks around it and in small letters. -/
def kindText (config : CrawlConfig) : List Char := lower (trim config.populator.toList)

/-- Nothing can be built: the kind is unknown, or a crawler is asked for that cannot be built. -/
def Unbuildable (config : CrawlConfig) : Prop :=
  (config.kindText ≠ "single".toList ∧ config.kindText ≠ "multiple".toList) ∨
    config.kindText = "multiple".toList ∧ (config.Unlinked ∨ config.Unpaged)

private theorem build_of_single (single : config.kindText = "single".toList) :
    config.build = .ok
      (.single ⟨config.baseUrl, (SearchSpec.compile config.paths config.fields).1⟩,
        config.textDiagnostics) := by
  have kind : PopulatorKind.ofText? config.populator = some .single :=
    PopulatorKind.ofText?_eq_some_iff.mpr single
  rw [build, kind, ← diagnostics_compile]

private theorem build_of_multiple (multiple : config.kindText = "multiple".toList) :
    config.build =
      (config.buildCrawler (SearchSpec.compile config.paths config.fields).1).map
        fun (crawler, more) => (.crawler crawler, config.textDiagnostics ++ more) := by
  have kind : PopulatorKind.ofText? config.populator = some .multiple :=
    PopulatorKind.ofText?_eq_some_iff.mpr multiple
  rw [build, kind, ← diagnostics_compile]
  dsimp only
  cases config.buildCrawler (SearchSpec.compile config.paths config.fields).1 with
  | error fault => rfl
  | ok built => rfl

private theorem build_of_unknown (single : config.kindText ≠ "single".toList)
    (multiple : config.kindText ≠ "multiple".toList) :
    config.build = .error (.populatorUnknown config.populator) := by
  have unknown : PopulatorKind.ofText? config.populator = none := by
    rw [kindText] at single multiple
    rw [PopulatorKind.ofText?, if_neg single, if_neg multiple]
  rw [build, unknown]

private theorem build_of_unbuildable (unbuildable : config.Unbuildable) :
    ∃ fault, fault ≠ .workersRefused ∧ config.build = .error fault := by
  obtain ⟨single, multiple⟩ | ⟨multiple, bare⟩ := unbuildable
  · exact ⟨.populatorUnknown config.populator, nofun, build_of_unknown single multiple⟩
  · obtain ⟨fault, told, refused⟩ := buildCrawler_of_unlinked bare
      (SearchSpec.compile config.paths config.fields).1
    exact ⟨fault, told, by rw [build_of_multiple multiple, refused]; rfl⟩

private theorem build_of_buildable (valid : config.Valid)
    (multiple : config.kindText = "multiple".toList)
    (buildable : ¬config.Unbuildable) :
    ∃ text crawler, config.linkPath = some text ∧ Realises crawler config text ∧
      config.build = .ok (.crawler crawler, config.textDiagnostics ++ (Path.compile text).2) := by
  have linked : ¬config.Unlinked := fun bare => buildable (.inr ⟨multiple, .inl bare⟩)
  have paged : ¬config.Unpaged := fun bare => buildable (.inr ⟨multiple, .inr bare⟩)
  obtain ⟨text, crawler, given, realises, built⟩ := buildCrawler_of_linked valid linked paged
  exact ⟨text, crawler, given, realises, by rw [build_of_multiple multiple, built]; rfl⟩

/-- Building from a valid configuration fails just if it names no kind of populator, or a crawler
that has no path to its links or no place for its page numbers, always with a fault of which the
user is told. Otherwise it gives the populator that the configuration describes and all that is
wrong with its texts. -/
theorem build_ends (config : CrawlConfig) (valid : config.Valid) :
    ((∃ fault, config.build = .error fault) ↔ config.Unbuildable) ∧
      (∀ fault, config.build = .error fault → (Pipeline.RunFault.build fault).isFatal = true) ∧
      (config.kindText = "single".toList →
        config.build = .ok
          (.single ⟨config.baseUrl, (SearchSpec.compile config.paths config.fields).1⟩,
            config.textDiagnostics)) ∧
      (config.kindText = "multiple".toList → ¬config.Unbuildable →
        ∃ text crawler, config.linkPath = some text ∧ Realises crawler config text ∧
          config.build =
            .ok (.crawler crawler, config.textDiagnostics ++ (Path.compile text).2)) := by
  have succeeds (buildable : ¬config.Unbuildable) : ∃ result, config.build = .ok result := by
    by_cases single : config.kindText = "single".toList
    · exact ⟨_, build_of_single single⟩
    · have multiple : config.kindText = "multiple".toList := by
        by_contra other
        exact buildable (.inl ⟨single, other⟩)
      obtain ⟨text, crawler, -, -, built⟩ := build_of_buildable valid multiple buildable
      exact ⟨_, built⟩
  have fails {fault : BuildFault} (refused : config.build = .error fault) : config.Unbuildable := by
    by_contra buildable
    obtain ⟨result, built⟩ := succeeds buildable
    cases refused.symm.trans built
  refine ⟨⟨fun ⟨_, refused⟩ => fails refused, fun unbuildable => ?_⟩, fun fault refused => ?_,
    build_of_single, build_of_buildable valid⟩
  · obtain ⟨fault, -, refused⟩ := build_of_unbuildable unbuildable
    exact ⟨fault, refused⟩
  · obtain ⟨other, told, same⟩ := build_of_unbuildable (fails refused)
    rw [Except.error.inj (refused.symm.trans same)]
    exact bne_iff_ne.mpr told

/-- A crawler of three pages, whose kind is written with a capital and blanks. -/
def sampleCrawl : CrawlConfig where
  populator := " Multiple\n"
  baseUrl := "https://x.test/list"
  linkPath := some "START(SELECTOR: ul) -> FIND(SELECTOR: a, LOC: ATTR(href))"
  paging := some "?p=\x7b\x7d"
  maxPages := some 3
  linkPrefix := some "https://x.test"

/-- A configuration of a crawl that passes the check, and the crawler that is built. -/
theorem build_ends_sampleCrawl :
    sampleCrawl.Valid ∧ ∃ text crawler, sampleCrawl.linkPath = some text ∧
      Realises crawler sampleCrawl text ∧ sampleCrawl.build = .ok (.crawler crawler, []) := by
  have valid : sampleCrawl.Valid := ⟨by decide, nofun⟩
  have multiple : sampleCrawl.kindText = "multiple".toList := by decide +kernel
  have buildable : ¬sampleCrawl.Unbuildable := by
    rintro (⟨-, other⟩ | ⟨-, (none | empty | ⟨text, given, bare⟩) | ⟨extension, given, bare⟩⟩)
    · exact other multiple
    · cases none
    · exact absurd (Option.some.inj empty) (by decide)
    · cases given
      revert bare
      decide +kernel
    · cases given
      revert bare
      decide
  obtain ⟨text, crawler, given, realises, built⟩ :=
    (build_ends sampleCrawl valid).2.2.2 multiple buildable
  have clean : sampleCrawl.textDiagnostics ++ (Path.compile text).2 = [] := by
    cases given
    decide +kernel
  rw [clean] at built
  exact ⟨valid, text, crawler, given, realises, built⟩

end CrawlConfig

end PageHarvest
