import PageHarvest.Text.Blank

/-! # Document trees

A document is a list of nodes. The texts of scripts, style sheets, templates and ruby notes belong
to the element that holds them and to no other: each text remembers its holder, so that reading the
text of an element takes exactly the texts whose holder has the element's own kind.
-/

namespace PageHarvest.Document

/-- The kinds of elements whose texts are kept apart. -/
inductive Holder where
  | page | script | style | template | rubyText | rubyParenthesis
  deriving DecidableEq, Inhabited

def Holder.ofName (name : String) : Holder :=
  if name == "script" then .script
  else if name == "style" then .style
  else if name == "template" then .template
  else if name == "rt" then .rubyText
  else if name == "rp" then .rubyParenthesis
  else .page

/-- Names and values in source order, each name once. -/
abbrev Attributes := List (String × String)

/-- A node of a document. -/
inductive Node where
  | element (name : String) (attributes : Attributes) (children : List Node)
  | text (holder : Holder) (content : String)
  | comment
  deriving Inhabited

mutual

/-- The texts of a holder at and below a node, in document order. -/
def Node.texts (holder : Holder) : Node → List String
  | .element _ _ children => textsOf holder children
  | .text own content => if own = holder then [content] else []
  | .comment => []

def textsOf (holder : Holder) : List Node → List String
  | [] => []
  | node :: rest => node.texts holder ++ textsOf holder rest

end

mutual

/-- All text at and below a node, whoever holds it. -/
def Node.allText : Node → List Char
  | .element _ _ children => allTextOf children
  | .text _ content => content.toList
  | .comment => []

def allTextOf : List Node → List Char
  | [] => []
  | node :: rest => node.allText ++ allTextOf rest

end

/-- The trimmed texts that are not blank, joined by one space each. -/
def joinTexts (texts : List String) : String :=
  " ".intercalate ((texts.map Text.strip).filter (!·.isEmpty))

/-- The text of an element of that name with these children. -/
def textOf (name : String) (children : List Node) : String :=
  joinTexts (textsOf (.ofName name) children)

end PageHarvest.Document
