import PageHarvest.Document.Node

/-! # Places in a document

A place is the whole document or one of its elements together with everything around it: the nodes
before and after it, and the place of its parent. From a place the tree can be walked in every
direction, and `descendants` lists its elements in document order.
-/

namespace PageHarvest.Document

/-- The document or one of its elements, with its surroundings. Nodes `before` are listed from the
nearest to the farthest. -/
inductive Place where
  | document (nodes : List Node)
  | element (name : String) (attributes : Attributes) (children before after : List Node)
      (parent : Place)
  deriving Inhabited

namespace Place

def nodes : Place → List Node
  | .document nodes => nodes
  | .element _ _ children _ _ _ => children

/-- The element name; the document as a whole has one that no element can have. -/
def name : Place → String
  | .document _ => "[document]"
  | .element name .. => name

/-- The attributes; the document has none. -/
def attributes : Place → Attributes
  | .document _ => []
  | .element _ attributes .. => attributes

/-- The nodes in front, the nearest first. -/
def before : Place → List Node
  | .document _ => []
  | .element _ _ _ before _ _ => before

/-- The nodes behind, the nearest first. -/
def after : Place → List Node
  | .document _ => []
  | .element _ _ _ _ after _ => after

def parent? : Place → Option Place
  | .document _ => none
  | .element _ _ _ _ _ parent => some parent

/-- All places around, the nearest first; the document is the last. -/
def ancestors : Place → List Place
  | .document _ => []
  | .element _ _ _ _ _ parent => parent :: parent.ancestors

/-- The document that a place belongs to. -/
def top : Place → Place
  | .document nodes => .document nodes
  | .element _ _ _ _ _ parent => parent.top

/-- The numbers of nodes in front, from the place outwards; no two places of a document share
them. -/
def address : Place → List Nat
  | .document _ => []
  | .element _ _ _ before _ parent => before.length :: parent.address

/-- Whether two places of one document are the same. -/
def same (p q : Place) : Bool := p.address == q.address

/-- The elements of a list of nodes that lie inside a place after the nodes `before`. -/
def elementsFrom (parent : Place) (before : List Node) : List Node → List Place
  | [] => []
  | node :: rest =>
    match node with
    | .element name attributes children =>
      .element name attributes children before rest parent ::
        elementsFrom parent (node :: before) rest
    | _ => elementsFrom parent (node :: before) rest

def children (p : Place) : List Place := elementsFrom p [] p.nodes

/-- The elements behind a place on the same level, the nearest first. -/
def laterSiblings : Place → List Place
  | .document _ => []
  | .element name attributes children before after parent =>
    elementsFrom parent (.element name attributes children :: before) after

/-- The elements in front of a place on the same level, the nearest first: `before` are the nodes
still to be looked at and `after` those already passed. -/
def elementsBack (parent : Place) (after : List Node) : List Node → List Place
  | [] => []
  | node :: before =>
    match node with
    | .element name attributes children =>
      .element name attributes children before after parent ::
        elementsBack parent (node :: after) before
    | _ => elementsBack parent (node :: after) before

/-- The elements in front of a place on the same level, the nearest first. -/
def earlierSiblings : Place → List Place
  | .document _ => []
  | .element name attributes children before after parent =>
    elementsBack parent (.element name attributes children :: after) before

mutual

/-- A node that lies after `before` and in front of `after`, and the elements below it. -/
def belowNode (parent : Place) (before after : List Node) : Node → List Place
  | .element name attributes children =>
    let here := .element name attributes children before after parent
    here :: belowNodes here [] children
  | .text _ _ => []
  | .comment => []

/-- The elements of a list of nodes and everything below them. -/
def belowNodes (parent : Place) (before : List Node) : List Node → List Place
  | [] => []
  | node :: rest => belowNode parent before rest node ++ belowNodes parent (node :: before) rest

end

/-- Every element strictly inside a place, in document order. -/
def descendants (p : Place) : List Place := belowNodes p [] p.nodes

def root? (p : Place) : Option Place := p.top.children.head?

def attribute? (p : Place) (name : String) : Option String := p.attributes.lookup name

def text (p : Place) : String := textOf p.name p.nodes

/-- All text below a place, whoever holds it. -/
def allText (p : Place) : List Char := allTextOf p.nodes

def ownTexts (p : Place) : List (List Char) :=
  p.nodes.filterMap fun
    | .text _ content => some content.toList
    | _ => none

end Place

end PageHarvest.Document
