import PageHarvest.Document.ReferenceTable
import PageHarvest.Text.Search

/-! # Character references

A character may be written by its number or by its name between `&` and `;`. Some old names are
known without the semicolon. Whatever is no reference stays as it was written.
-/

namespace PageHarvest.Document

/-- A named character: its name, its text, and whether it needs no semicolon. -/
structure NamedReference where
  name : List Char
  text : List Char
  bare : Bool

def numberOf (digits : List Char) : Nat :=
  digits.foldl (fun n c => 10 * n + (c.toNat - 48)) 0

/-- Reads one entry of the table. -/
def NamedReference.ofEntry (entry : List Char) : NamedReference :=
  let name := entry.takeWhile fun c => c != '=' && c != '!'
  let codes := (entry.dropWhile (· != '=')).drop 1
  ⟨name, (Text.splitAt [','] codes).map fun code => Char.ofNat (numberOf code), entry.contains '!'⟩

def namedReferences : List NamedReference :=
  referenceLines.flatMap fun line => (Text.splitAt [' '] line.toList).map NamedReference.ofEntry

def isLetter (c : Char) : Bool := ('a' ≤ c && c ≤ 'z') || ('A' ≤ c && c ≤ 'Z')

def isDigit (c : Char) : Bool := '0' ≤ c && c ≤ '9'

def isAlphanumeric (c : Char) : Bool := isLetter c || isDigit c

def hexValue (c : Char) : Nat :=
  if c.isDigit then c.toNat - 48 else c.toLower.toNat - 87

def isHexDigit (c : Char) : Bool := isDigit c || ('a' ≤ c.toLower && c.toLower ≤ 'f')

/-- What the numbers 128 to 159 stand for, which are controls in the standard but were printable
characters in an older code. -/
def oldCode : List Nat := [
  0x20AC, 0x81, 0x201A, 0x192, 0x201E, 0x2026, 0x2020, 0x2021, 0x2C6, 0x2030, 0x160, 0x2039, 0x152,
  0x8D, 0x17D, 0x8F, 0x90, 0x2018, 0x2019, 0x201C, 0x201D, 0x2022, 0x2013, 0x2014, 0x2DC, 0x2122,
  0x161, 0x203A, 0x153, 0x9D, 0x17E, 0x178]

/-- The character of a number; numbers that are no character give the replacement character. -/
def numberedChar (n : Nat) : Char :=
  if n == 0 || 0x10FFFF < n || (0xD800 ≤ n && n < 0xE000) then Char.ofNat 0xFFFD
  else if 0x80 ≤ n && n < 0xA0 then Char.ofNat (oldCode.getD (n - 0x80) n)
  else Char.ofNat n

def afterSemicolon : List Char → List Char
  | ';' :: rest => rest
  | s => s

/-- The named character at the front of a text, and what follows it. The longest name wins. -/
def namedAt (inAttribute : Bool) (s : List Char) : Option (List Char × List Char) :=
  let (run, rest) := s.span isAlphanumeric
  let whole := if rest.head? == some ';' then namedReferences.find? (·.name == run) else none
  match whole with
  | some found => some (found.text, rest.drop 1)
  | none =>
    let known := namedReferences.filter fun r => r.bare && r.name.isPrefixOf run
    match known.foldl (fun best r => match best with
        | some (b : NamedReference) => if b.name.length < r.name.length then some r else best
        | none => some r) none with
    | none => none
    | some found =>
      let rest := s.drop found.name.length
      let runsOn := match rest with
        | c :: _ => c == '=' || isAlphanumeric c
        | [] => false
      if inAttribute && runsOn then none else some (found.text, rest)

/-- The character that a text after `&` stands for, and what follows it. -/
def referenceAt (inAttribute : Bool) (s : List Char) : Option (List Char × List Char) :=
  match s with
  | '#' :: x :: rest =>
    if x == 'x' || x == 'X' then
      let (digits, after) := rest.span isHexDigit
      if digits.isEmpty then none
      else
        let number := digits.foldl (fun n c => 16 * n + hexValue c) 0
        some ([numberedChar number], afterSemicolon after)
    else
      let (digits, after) := (x :: rest).span isDigit
      if digits.isEmpty then none else some ([numberedChar (numberOf digits)], afterSemicolon after)
  | _ => namedAt inAttribute s

/-- Replaces the references of a text; the fuel bounds its length. -/
def decodeWith (inAttribute : Bool) : Nat → List Char → List Char
  | 0, s => s
  | _ + 1, [] => []
  | fuel + 1, c :: rest =>
    if c == '&' then
      match referenceAt inAttribute rest with
      | some (text, after) => text ++ decodeWith inAttribute fuel after
      | none => c :: decodeWith inAttribute fuel rest
    else c :: decodeWith inAttribute fuel rest

def decodeReferences (inAttribute : Bool) (s : List Char) : List Char :=
  decodeWith inAttribute s.length s

end PageHarvest.Document
