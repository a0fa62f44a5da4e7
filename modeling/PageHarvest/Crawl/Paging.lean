import PageHarvest.Text.Search
import PageHarvest.Validate.Scalar

/-! # Paging

How the pages of a seed are walked. Every page but that of a crawl without paging has the address
of the seed with an extension in which each placeholder stands for the page number. Extensions
without a placeholder are refused, and so is a fixed walk without a number of pages.
-/

namespace PageHarvest

open Validate

namespace Paging

/-- When a walk ends. -/
inductive Mode where
  /-- After the seed itself. -/
  | disabled
  /-- After the first page without records, or after a number of pages if one is given. -/
  | indefinite
  /-- After a number of pages. -/
  | fixed
  deriving DecidableEq, Inhabited

def Mode.name : Mode → String
  | .disabled => "disabled"
  | .indefinite => "indefinite"
  | .fixed => "fixed"

def placeholder : String := "\x7b\x7d"

/-- Why a walk is refused. -/
inductive Fault where
  | placeholderMissing
  | countMissing
  deriving DecidableEq, Inhabited

def Fault.message : Fault → String
  | .placeholderMissing => "paging extension must contain '" ++ placeholder ++ "'"
  | .countMissing => "fixed paging needs a page count"

def fault? (mode : Mode) (extension : String) (pages : Option Nat) : Option Fault :=
  if mode = .disabled then none
  else if !Text.contains extension placeholder then some .placeholderMissing
  else if mode = .fixed ∧ pages = none then some .countMissing
  else none

end Paging

/-- A walk over the pages of a seed. -/
structure Paging where
  mode : Paging.Mode := .disabled
  extension : String := ""
  pages : Option Nat := none
  sound : Paging.fault? mode extension pages = none := by rfl
  deriving DecidableEq

namespace Paging

def seedOnly : Paging := {}

instance : Inhabited Paging := ⟨seedOnly⟩

/-- The walk with these members, if it is sound. -/
def ofMembers (mode : Mode) (extension : String) (pages : Option Nat) : Except Fault Paging :=
  match sound : fault? mode extension pages with
  | none => .ok ⟨mode, extension, pages, sound⟩
  | some fault => .error fault

/-- A walk that may be refused. -/
def checked (mode : Mode) (extension : String) (pages : Option Nat) : Checked Paging :=
  match ofMembers mode extension pages with
  | .ok paging => .sound paging
  | .error fault => .fail (.refused fault.message)

def Mode.check : Check Mode :=
  word ([Mode.disabled, .indefinite, .fixed].map fun mode => (mode.name, mode))

def check : Check Paging :=
  model "Paging" fun members =>
    ((fun mode extension pages => (mode, extension, pages)) <$>
      optional members "mode" .disabled Mode.check <*> optional members "extension" "" text <*>
      optional members "pages" none (orNull natural)).andThen
      fun (mode, extension, pages) => checked mode extension pages

def toJson (paging : Paging) : Json :=
  .object [("mode", .string paging.mode.name), ("extension", .string paging.extension),
    ("pages", (paging.pages.map Json.nat).getD .null)]

/-- Whether a page number belongs to the walk at all. -/
def isDue (paging : Paging) (page : Nat) : Bool :=
  match paging.mode with
  | .disabled => page == 0
  | .indefinite | .fixed => paging.pages.all (page < ·)

def url (paging : Paging) (base : String) (page : Nat) : String :=
  match paging.mode with
  | .disabled => base
  | .indefinite | .fixed => Text.replace placeholder (toString page) (base ++ paging.extension)

def firstUrls (paging : Paging) (base : String) (limit : Nat) : List (Nat × String) :=
  ((List.range limit).filter paging.isDue).map fun page => (page, paging.url base page)

end Paging

end PageHarvest
