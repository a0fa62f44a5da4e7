import PageHarvest.Text.Quoted
import PageHarvest.Text.Search

/-! # Trees of files

A tree holds files, folders and symbolic links at places, a place being the list of names on the way
to it from the top. A location is a place as somebody writes it, which also fixes how faults name
it. Whoever follows the names of a location follows the links on the way as well.
-/

namespace PageHarvest.Files

/-- The names on the way from the top. -/
abbrev Place := List String

def bytesOf (text : String) : List Nat := text.toUTF8.toList.map UInt8.toNat

/-- What a file holds. -/
inductive Content where
  | text (content : String)
  /-- Bytes of which nobody knows that they are text. -/
  | raw (bytes : List Nat)
  deriving DecidableEq, Inhabited

instance : Coe String Content := ⟨.text⟩

namespace Content

def bytes : Content → List Nat
  | .text content => bytesOf content
  | .raw bytes => bytes

def append (content : Content) (added : String) : Content :=
  match content with
  | .text content => .text (content ++ added)
  | .raw bytes => .raw (bytes ++ bytesOf added)

end Content

/-- What stands at a place. -/
inductive Entry where
  | folder
  | file (content : Content)
  /-- A symbolic link, with the path that it stands for. -/
  | link (target : String)
  deriving DecidableEq, Inhabited

/-- Why something cannot be done at a place. -/
inductive Fault where
  | absent
  | folder
  /-- A part of the way to the place is no folder. -/
  | noFolder
  /-- Something else stands where a folder is to be made. -/
  | taken
  /-- Links lead on and on. -/
  | loop
  deriving DecidableEq, Inhabited

def Fault.message (path : String) : Fault → String
  | .absent => "[Errno 2] No such file or directory: " ++ Text.quoted path
  | .folder => "[Errno 21] Is a directory: " ++ Text.quoted path
  | .noFolder => "[Errno 20] Not a directory: " ++ Text.quoted path
  | .taken => "[Errno 17] File exists: " ++ Text.quoted path
  | .loop => "[Errno 40] Too many levels of symbolic links: " ++ Text.quoted path

/-- A fault and the path at which it arose. -/
structure Problem where
  fault : Fault
  path : String
  deriving DecidableEq, Inhabited

def Problem.message (problem : Problem) : String := problem.fault.message problem.path

/-- Files, folders and links; the top itself is always a folder. -/
structure Tree where
  /-- How the top is written. -/
  top : String := ""
  entries : List (Place × Entry) := []
  deriving DecidableEq, Inhabited

namespace Tree

def at? (tree : Tree) (place : Place) : Option Entry :=
  if place.isEmpty then some .folder else tree.entries.lookup place

/-- Sets an entry in a list of entries; one that is there already keeps its position. -/
def putIn (place : Place) (entry : Entry) : List (Place × Entry) → List (Place × Entry)
  | [] => [(place, entry)]
  | (p, e) :: rest => if p = place then (p, entry) :: rest else (p, e) :: putIn place entry rest

def put (tree : Tree) (place : Place) (entry : Entry) : Tree :=
  { tree with entries := putIn place entry tree.entries }

def path (tree : Tree) (place : Place) : String := "/".intercalate (tree.top :: place)

/-- The entries that are not in an earlier tree as they are here. -/
def since (tree earlier : Tree) : List (Place × Entry) :=
  tree.entries.filter fun (place, entry) => earlier.at? place != some entry

def sorted (entries : List (Place × Entry)) : List (Place × Entry) :=
  entries.mergeSort fun a b => !(b.1 < a.1)

end Tree

/-- A place as it is written: the names are followed from a start, and `lead` only stands in front
of them in the wording. Empty names and single dots lead nowhere, two dots lead upwards. -/
structure Location where
  start : Place
  lead : List String := []
  names : List String
  deriving DecidableEq, Inhabited

namespace Location

/-- What a path means for somebody who stands at a place. -/
def ofPath (here : Place) (path : String) : Location :=
  { start := if path.startsWith "/" then [] else here, names := Text.split "/" path }

/-- A place of a tree, written in full. -/
def ofPlace (tree : Tree) (place : Place) : Location :=
  { start := [], lead := [tree.top], names := place }

def path (location : Location) : String := "/".intercalate (location.lead ++ location.names)

/-- The location of the folder, if one is named. -/
def folder? (location : Location) : Option Location :=
  let names := (location.names.dropLast.reverse.dropWhile String.isEmpty).reverse
  if names.isEmpty then none else some { location with names }

/-- Whether the path ends like that of a folder. -/
def endsAsFolder (location : Location) : Bool :=
  match location.names.getLast? with
  | some "" | some "." => true
  | _ => false

end Location

/-- Whether a name leads nowhere. -/
def staysHere (name : String) : Bool := name.isEmpty || name = "."

/-- Where a name leads from a place. -/
def step (here : Place) (name : String) : Place :=
  if staysHere name then here else if name = ".." then here.dropLast else here ++ [name]

namespace Tree

/-- Follows names up to a link; all but the last have to lead to folders. What a link stands for and
the names behind it are followed by `jump`. -/
def walk (tree : Tree) (jump : Place → List String → Except Fault Place) (here : Place) :
    List String → Except Fault Place
  | [] => .ok here
  | name :: rest => match tree.at? here with
    | none => .error .absent
    | some .folder => match tree.at? (step here name) with
      | some (.link target) =>
        jump (if target.startsWith "/" then [] else here) (Text.split "/" target ++ rest)
      | _ => tree.walk jump (step here name) rest
    | some _ => .error .noFolder

/-- Follows names and at most so many links. -/
def followWithin (tree : Tree) : Nat → Place → List String → Except Fault Place
  | 0 => tree.walk fun _ _ => .error .loop
  | links + 1 => tree.walk (tree.followWithin links)

/-- How many links are followed before it is given up. -/
def linkLimit : Nat := 40

def follow (tree : Tree) (here : Place) (names : List String) : Except Fault Place :=
  tree.followWithin linkLimit here names

/-- What stands where a place leads. -/
def look (tree : Tree) (place : Place) : Option Entry :=
  match tree.follow [] place with
  | .ok there => tree.at? there
  | .error _ => none

def has (tree : Tree) (place : Place) : Bool := (tree.look place).isSome

def hasFolder (tree : Tree) (place : Place) : Bool := tree.look place = some .folder

/-- The place that a location leads to; the empty path leads nowhere. -/
def find (tree : Tree) (location : Location) : Except Fault Place :=
  if location.path.isEmpty then .error .absent else tree.follow location.start location.names

def read (tree : Tree) (location : Location) : Except Fault Content := do
  match tree.at? (← tree.find location) with
  | some (.file content) => if location.endsAsFolder then .error .noFolder else .ok content
  | some .folder => .error .folder
  | some (.link _) => .error .loop
  | none => .error .absent

end Tree

/-- Work that changes a tree, and may fail in the middle of it. -/
abbrev Filing (α : Type) := ExceptT Problem (StateM Tree) α

/-- How folders are made on the way to a folder. They differ where a link on the way stands for
nothing. -/
inductive Making where
  /-- Whatever stands at the link is in the way. -/
  | here
  /-- What is below the link is not there. -/
  | below
  deriving DecidableEq

/-- Why no folder can be made along further names where something else stands. -/
def blocked (making : Making) (shown : List String) (fault : Fault) (names : List String) :
    Problem :=
  match names.dropWhile String.isEmpty with
  | [] => ⟨.taken, "/".intercalate shown⟩
  | next :: _ =>
    if fault = .absent && making = .here then ⟨.taken, "/".intercalate shown⟩
    else ⟨fault, "/".intercalate (shown ++ names.takeWhile String.isEmpty ++ [next])⟩

/-- Makes the folders that are missing on the way along names. -/
def makeAlong (making : Making) (here : Place) (shown : List String) : List String → Filing Unit
  | [] => return
  | name :: rest => do
    let there := step here name
    let shown := shown ++ [name]
    let tree ← get
    match tree.at? there with
    | some .folder => makeAlong making there shown rest
    | none =>
      modify (·.put there .folder)
      makeAlong making there shown rest
    | some (.file _) => throw (blocked making shown .noFolder rest)
    | some (.link _) =>
      match tree.follow here [name, "."] with
      | .ok folder => makeAlong making folder shown rest
      | .error fault => throw (blocked making shown fault rest)

/-- Makes a folder and those on the way to it, as far as they are missing. -/
def makeFolder (making : Making) (location : Location) : Filing Unit :=
  makeAlong making location.start location.lead location.names

/-- Sets the content of a file, given what it is now. -/
def change (location : Location) (f : Option Content → Content) : Filing Unit := do
  let tree ← get
  match tree.find location with
  | .error fault => throw ⟨fault, location.path⟩
  | .ok place =>
    match tree.at? place with
    | some .folder => throw ⟨.folder, location.path⟩
    | some (.link _) => throw ⟨.loop, location.path⟩
    | some (.file content) =>
      if location.endsAsFolder then throw ⟨.noFolder, location.path⟩
      set (tree.put place (.file (f (some content))))
    | none =>
      if location.endsAsFolder then throw ⟨.folder, location.path⟩
      set (tree.put place (.file (f none)))

def write (location : Location) (content : String) : Filing Unit :=
  change location fun _ => content

/-- Writes at the end of a file, which is made if it is missing. -/
def append (location : Location) (content : String) : Filing Unit :=
  change location fun old => (old.getD "").append content

end PageHarvest.Files
