import Mathlib.Data.Nat.Find
import PageHarvest.Proofs.Crawl.Visit

/-! # How many pages a walk has

On a site that always answers alike, the paging and the answers tell how many pages a walk visits:
as many as are due, or up to the first page without a record if the walk is indefinite. A walk
without a bound over pages that all give a record has no such number.
-/

namespace PageHarvest

variable {τ : Type}

namespace Crawler

variable (crawler : Crawler τ) (site : String → Fetched)

/-- A page that can be had and links to a document, which gives a record. -/
def Fruitful (page : Nat) : Prop :=
  ∃ html links link document record,
    site (crawler.pageUrl page) = .document html ∧ crawler.keptLinks html = .ok links ∧
      link ∈ links ∧ site link = .document document ∧
      (harvest crawler.spec (some link) document).outcome.1 = .ok record

/-- How many pages a walk visits. -/
inductive Extent : Nat → Prop
  | seedOnly (mode : crawler.paging.mode = .disabled) : Extent 1
  | fixed {count : Nat} (mode : crawler.paging.mode = .fixed)
    (pages : crawler.paging.pages = some count) : Extent count
  /-- An indefinite walk ends with the first page that cannot be had or gives no record. -/
  | barren {last : Nat} (mode : crawler.paging.mode = .indefinite)
    (within : ∀ bound, crawler.paging.pages = some bound → last < bound)
    (fruitful : ∀ page < last, crawler.Fruitful site page)
    (barren : ¬crawler.Fruitful site last) : Extent (last + 1)
  /-- It ends at its bound if it comes there first. -/
  | bounded {count : Nat} (mode : crawler.paging.mode = .indefinite)
    (pages : crawler.paging.pages = some count)
    (fruitful : ∀ page < count, crawler.Fruitful site page) : Extent count

/-- Whether the walk ends with a page. -/
def Ends (page : Nat) : Prop :=
  crawler.paging.mode = .indefinite ∧ ¬crawler.Fruitful site page

/-- Whether a page does not break the walk down, as a first page does that cannot be had. -/
def Opens (page : Nat) : Prop :=
  crawler.paging.isDue page = true → page = 0 →
    ∀ failure, site (crawler.pageUrl page) ≠ .failed failure

/-- From a page on, so many pages are visited. -/
inductive Lasts : (page count : Nat) → Prop
  | ended {page : Nat} (past : crawler.paging.isDue page = false) : Lasts page 0
  | last {page : Nat} (due : crawler.paging.isDue page = true) (ends : crawler.Ends site page) :
    Lasts page 1
  | more {page count : Nat} (due : crawler.paging.isDue page = true)
    (goesOn : ¬crawler.Ends site page) (rest : Lasts (page + 1) count) : Lasts page (count + 1)

variable {crawler site}

/-! ## The extent of a walk -/

private theorem Lasts.prepend {page more : Nat} (count : Nat)
    (goesOn : ∀ i < count, crawler.paging.isDue (page + i) = true ∧ ¬crawler.Ends site (page + i))
    (rest : crawler.Lasts site (page + count) more) :
    crawler.Lasts site page (count + more) := by
  induction count generalizing page with
  | zero =>
    rw [Nat.zero_add]
    exact rest
  | succ count ih =>
    have here := goesOn 0 (by omega)
    have tail : crawler.Lasts site (page + 1) (count + more) := by
      apply ih
      · intro i less
        have later := goesOn (i + 1) (by omega)
        rwa [show page + (i + 1) = page + 1 + i by omega] at later
      · rwa [show page + (count + 1) = page + 1 + count by omega] at rest
    rw [show count + 1 + more = count + more + 1 by omega]
    exact .more here.1 here.2 tail

private theorem isDue_of_counted {page : Nat} (mode : crawler.paging.mode ≠ .disabled) :
    crawler.paging.isDue page = true ↔
      ∀ bound, crawler.paging.pages = some bound → page < bound := by
  rw [Paging.isDue]
  split
  · next seedOnly => exact absurd seedOnly mode
  · simp [Option.all_eq_true]
  · simp [Option.all_eq_true]

theorem isDue_zero : crawler.paging.isDue 0 = true ↔
    crawler.paging.mode = .disabled ∨
      ∀ bound, crawler.paging.pages = some bound → 0 < bound := by
  by_cases mode : crawler.paging.mode = .disabled
  · rw [Paging.isDue, mode]
    simp
  · rw [isDue_of_counted mode]
    simp [mode]

theorem pageUrl_of_disabled {page : Nat} (mode : crawler.paging.mode = .disabled) :
    crawler.pageUrl page = crawler.baseUrl := by
  rw [pageUrl, Paging.url, mode]

/-- No page behind the seed breaks the walk down. -/
theorem opens_succ (page : Nat) : crawler.Opens site (page + 1) :=
  fun _ first => absurd first (Nat.succ_ne_zero page)

private theorem not_ends_of_mode {page : Nat} (mode : crawler.paging.mode ≠ .indefinite) :
    ¬crawler.Ends site page :=
  fun ends => mode ends.1

private theorem not_ends_of_fruitful {page : Nat} (fruitful : crawler.Fruitful site page) :
    ¬crawler.Ends site page :=
  fun ends => ends.2 fruitful

/-- A walk that comes to its bound visits all pages before it. -/
theorem lasts_bound {count : Nat} (mode : crawler.paging.mode ≠ .disabled)
    (pages : crawler.paging.pages = some count)
    (goesOn : ∀ page < count, ¬crawler.Ends site page) : crawler.Lasts site 0 count := by
  refine Lasts.prepend count (fun i less => ⟨?_, ?_⟩) (.ended ?_)
  · rw [isDue_of_counted mode, pages]
    rintro bound ⟨⟩
    omega
  · rw [Nat.zero_add]
    exact goesOn i less
  · rw [← Bool.not_eq_true, isDue_of_counted mode]
    intro due
    have less := due count pages
    omega

/-- A crawl lasts exactly over the pages of its extent. -/
theorem Extent.lasts {count : Nat} (extent : crawler.Extent site count) :
    crawler.Lasts site 0 count := by
  cases extent with
  | seedOnly mode =>
    refine .more ?_ (not_ends_of_mode (by rw [mode]; decide)) (.ended ?_)
    · rw [Paging.isDue, mode]
      rfl
    · rw [Paging.isDue, mode]
      rfl
  | fixed mode pages =>
    refine lasts_bound (by rw [mode]; decide) pages ?_
    intro page _
    exact not_ends_of_mode (by rw [mode]; decide)
  | @barren last mode within fruitful barren =>
    have counted : crawler.paging.mode ≠ .disabled := by
      rw [mode]
      decide
    refine Lasts.prepend last (fun i less => ⟨?_, ?_⟩) (.last ?_ ?_)
    · rw [isDue_of_counted counted]
      intro bound pages
      have least := within bound pages
      omega
    · rw [Nat.zero_add]
      exact not_ends_of_fruitful (fruitful i less)
    · rw [isDue_of_counted counted, Nat.zero_add]
      exact within
    · rw [Nat.zero_add]
      exact ⟨mode, barren⟩
  | bounded mode pages fruitful =>
    refine lasts_bound (by rw [mode]; decide) pages ?_
    intro page less
    exact not_ends_of_fruitful (fruitful page less)

/-- Only an indefinite walk without a bound over fruitful pages has no extent. -/
theorem exists_extent_iff : (∃ count, crawler.Extent site count) ↔
    ¬(crawler.paging.mode = .indefinite ∧ crawler.paging.pages = none ∧
      ∀ page, crawler.Fruitful site page) := by
  constructor
  · rintro ⟨count, extent⟩ ⟨mode, pages, fruitful⟩
    cases extent with
    | seedOnly mode' | fixed mode' =>
      rw [mode] at mode'
      cases mode'
    | barren _ _ _ barren => exact barren (fruitful _)
    | bounded _ pages' =>
      rw [pages] at pages'
      cases pages'
  · intro finite
    have sound := crawler.paging.sound
    cases mode : crawler.paging.mode with
    | disabled => exact ⟨1, .seedOnly mode⟩
    | fixed =>
      cases pages : crawler.paging.pages with
      | some count => exact ⟨count, .fixed mode pages⟩
      | none =>
        rw [mode, pages, Paging.fault?, if_neg (by decide)] at sound
        split at sound
        · cases sound
        · rw [if_pos ⟨rfl, rfl⟩] at sound
          cases sound
    | indefinite =>
      by_cases endless : ∀ page, crawler.Fruitful site page
      · cases pages : crawler.paging.pages with
        | none => exact absurd ⟨mode, pages, endless⟩ finite
        | some count => exact ⟨count, .bounded mode pages fun page _ => endless page⟩
      · classical
        have barren := not_forall.mp endless
        have fruitful (page : Nat) (less : page < Nat.find barren) :
            crawler.Fruitful site page := not_not.mp (Nat.find_min barren less)
        by_cases within : ∀ bound, crawler.paging.pages = some bound → Nat.find barren < bound
        · exact ⟨_, .barren mode within fruitful (Nat.find_spec barren)⟩
        · simp only [not_forall] at within
          obtain ⟨bound, pages, reached⟩ := within
          exact ⟨bound, .bounded mode pages fun page less => fruitful page (by omega)⟩

end Crawler

end PageHarvest
