import PageHarvest.Files.Tree

/-! # The folder of a project

What the program writes goes into a folder of its own at the root of the project. The root is the
nearest folder upwards from here that holds a marker.
-/

namespace PageHarvest.Project

open Files

def markers : List String := [".git", "pyproject.toml", ".pathcrawl", "requirements.txt"]

def isMarked (tree : Tree) (place : Place) : Bool :=
  markers.any fun marker => tree.has (place ++ [marker])

/-- A place and the places above it, going upwards. -/
def upwards (place : Place) : List Place :=
  (List.range (place.length + 1)).map fun n => place.take (place.length - n)

/-- The root of the project for somebody who stands at a place; the place itself if nothing is
marked. -/
def root (tree : Tree) (here : Place) : Place :=
  ((upwards here).find? (isMarked tree)).getD here

def home (tree : Tree) (here : Place) : Place := root tree here ++ [".pathcrawl"]

def logs (tree : Tree) (here : Place) : Place := home tree here ++ ["logs"]

def output (tree : Tree) (here : Place) : Place := home tree here ++ ["output"]

/-- The file in the folder of the program that keeps it out of version control. -/
def ignoreFile : String := ".gitignore"

def ignoreText : String := "# Automatically created by pathcrawl\n*\n"

def isReady (tree : Tree) (here : Place) : Bool :=
  tree.hasFolder (home tree here) && tree.has (home tree here ++ [ignoreFile])

/-- Makes a folder that depends on the tree as it is by then. -/
def makeAt (place : Tree → Place) : Filing Unit := do
  let tree ← get
  makeFolder .here (.ofPlace tree (place tree))

/-- Sets the folder of the program up, without touching what is there, and gives its place. -/
def setUp (here : Place) : Filing Place := do
  let tree ← get
  let folder := home tree here
  makeAt (logs · here)
  makeAt (output · here)
  let tree ← get
  if !tree.has (folder ++ [ignoreFile]) then
    write (.ofPlace tree (folder ++ [ignoreFile])) ignoreText
  return folder

end PageHarvest.Project
