import PageHarvest.Document.Place
import PageHarvest.Document.Token

/-! # Building the document tree

Tokens are put into a tree with the help of the stack of open elements. Missing outer elements are
added, an element that cannot hold the next one is closed first, and an end tag closes everything
up to its element unless an element that binds more strongly lies between. Every token fits
somewhere, so every text has a tree.
-/

namespace PageHarvest.Document

/-- Attributes that hold a list of words: the words are kept, each blank between them becomes one
space. A name without elements applies to all of them. -/
def wordListAttributes : List (String × List String) := [
  ("class", []), ("accesskey", []), ("dropzone", []), ("rel", ["a", "link", "area"]),
  ("rev", ["a", "link"]), ("headers", ["td", "th"]), ("accept-charset", ["form"]),
  ("archive", ["object"]), ("sizes", ["icon"]), ("sandbox", ["iframe"]), ("for", ["output"])]

/-- Whether an attribute of an element is a list of words. -/
def isWordList (element name : String) : Bool :=
  wordListAttributes.any fun (listed, elements) =>
    listed == name && (elements.isEmpty || elements.contains element)

def words : List Char → List (List Char)
  | [] => []
  | c :: rest =>
    if Text.isBlank c then words rest
    else match rest, words rest with
      | d :: _, word :: more => if Text.isBlank d then [c] :: word :: more else (c :: word) :: more
      | _, more => [c] :: more

/-- An attribute as an element has it. -/
def attributeOf (element : String) (pair : String × String) : String × String :=
  if isWordList element pair.1 then
    (pair.1, String.ofList ([' '].intercalate (words pair.2.toList)))
  else pair

/-- Elements without content. -/
def voidElements : List String := [
  "area", "base", "basefont", "br", "col", "frame", "hr", "img", "input", "isindex", "link", "meta",
  "param"]

def headings : List String := ["h1", "h2", "h3", "h4", "h5", "h6"]

/-- For an open element, the new elements before which it is closed. -/
def closers (name : String) : List String :=
  if headings.contains name then ["fieldset", "form", "li", "p", "table"]
  else match name with
  | "a" => ["a", "fieldset", "table", "td", "th"]
  | "address" => ["dd", "dl", "dt", "form", "li", "ul"]
  | "b" => ["center", "p", "td", "th"]
  | "big" | "s" | "small" | "strike" | "tt" => ["p"]
  | "caption" => ["col", "colgroup", "tbody", "tfoot", "thead", "tr"]
  | "col" => ["col", "colgroup", "tbody", "tfoot", "thead", "tr"]
  | "colgroup" => ["colgroup", "tbody", "tfoot", "thead", "tr"]
  | "dd" => ["dt", "dd"]
  | "dir" | "menu" => ["dd", "dl", "dt", "form", "ul"]
  | "dl" => ["form", "li"]
  | "dt" => ["dd", "dl", "dt"]
  | "font" => ["center", "td", "th"]
  | "form" => ["form"]
  | "head" => [
      "a", "abbr", "acronym", "address", "b", "bdo", "big", "blockquote", "body", "br", "center",
      "cite", "code", "dd", "dfn", "dir", "div", "dl", "dt", "em", "fieldset", "font", "form",
      "frameset", "h1", "h2", "h3", "h4", "h5", "h6", "hr", "i", "iframe", "img", "kbd", "li",
      "listing", "map", "menu", "ol", "p", "pre", "q", "s", "samp", "small", "span", "strike",
      "strong", "sub", "sup", "table", "tt", "u", "ul", "var", "xmp"]
  | "hr" => ["form"]
  | "i" => ["center"]
  | "legend" => ["fieldset"]
  | "li" => ["li"]
  | "link" | "style" | "title" => ["body", "frameset"]
  | "listing" | "xmp" => ["dd", "dl", "dt", "fieldset", "form", "li", "table", "ul"]
  | "ol" => ["form"]
  | "option" => ["optgroup", "option"]
  | "p" => [
      "address", "blockquote", "body", "caption", "center", "col", "colgroup", "dd", "dir", "div",
      "dl", "dt", "frameset", "h1", "h2", "h3", "h4", "h5", "h6", "head", "hr", "li", "listing",
      "menu", "multicol", "ol", "p", "pre", "table", "tbody", "td", "tfoot", "th", "title", "tr",
      "ul", "xmp"]
  | "pre" => ["dd", "dl", "dt", "fieldset", "form", "li", "table", "ul"]
  | "script" => ["noscript"]
  | "span" => ["td", "th"]
  | "tbody" | "thead" => ["tbody", "tfoot"]
  | "td" | "th" => ["tbody", "td", "tfoot", "th", "tr"]
  | "tfoot" => ["tbody"]
  | "tr" => ["tbody", "tfoot", "tr"]
  | "u" => ["p", "td", "th"]
  | "ul" => ["address", "form", "menu", "pre"]
  | _ => []

/-- How strongly an element resists being closed by the end tag of another. -/
def strength (name : String) : Nat :=
  match name with
  | "div" => 150
  | "td" | "th" => 160
  | "tr" => 170
  | "thead" | "tbody" | "tfoot" => 180
  | "table" => 190
  | "head" | "body" => 200
  | "html" => 220
  | _ => 100

/-- An element that is still open; its children are listed from the last to the first. -/
structure OpenElement where
  name : String
  attributes : Attributes := []
  holder : Holder := .page
  children : List Node := []

def OpenElement.close (e : OpenElement) : Node :=
  .element e.name e.attributes e.children.reverse

/-- The state of the builder. -/
structure Builder where
  /-- The open elements, the innermost first. -/
  stack : List OpenElement := []
  /-- Finished nodes outside all elements, from the last to the first. -/
  top : List Node := []
  /-- Characters of the text that is being read, from the last to the first. -/
  pending : List Char := []
  headSeen : Bool := false
  bodySeen : Bool := false
  /-- Start tags that were left out and whose end tags are to be left out too. -/
  omitted : Nat := 0
  /-- Nothing is read after the end of the outermost element. -/
  ended : Bool := false

namespace Builder

def current? (b : Builder) : Option String := b.stack.head?.map (·.name)

def add (b : Builder) (node : Node) : Builder :=
  match b.stack with
  | [] => { b with top := node :: b.top }
  | e :: rest => { b with stack := { e with children := node :: e.children } :: rest }

/-- Blanks that a text node may consist of without being kept as written. -/
def isLayout (c : Char) : Bool :=
  c == ' ' || c == '\n' || c == '\t' || c == '\r' || c.toNat == 12

/-- The text node that ends here. Pure layout shrinks to one character outside of elements that
keep it. -/
def flush (b : Builder) : Builder :=
  if b.pending.isEmpty then b
  else
    let content := b.pending.reverse
    let keeps := b.stack.any fun e => e.name == "pre" || e.name == "textarea"
    let content :=
      if !keeps && content.all isLayout then (if content.contains '\n' then ['\n'] else [' '])
      else content
    let holder := (b.stack.head?.map (·.holder)).getD .page
    { b with pending := [] }.add (.text holder (String.ofList content))

def push (b : Builder) (name : String) (attributes : Attributes) : Builder :=
  let b := b.flush
  let outer := (b.stack.head?.map (·.holder)).getD .page
  let own := Holder.ofName name
  { b with
    stack :=
      ⟨name, attributes.map (attributeOf name), if own = .page then outer else own, []⟩ :: b.stack
    headSeen := b.headSeen || name == "head"
    bodySeen := b.bodySeen || name == "body" }

def pop (b : Builder) : Builder :=
  let b := b.flush
  match b.stack with
  | [] => b
  | e :: rest => { b with stack := rest }.add e.close

def popMany (b : Builder) : Nat → Builder
  | 0 => b
  | n + 1 => b.pop.popMany n

/-- Closes the open elements that cannot hold an element of that name. -/
def closeFor (b : Builder) (name : String) : Builder :=
  b.popMany (b.stack.takeWhile fun e => (closers e.name).contains name).length

/-- Elements that belong into the head when they come first. -/
def headElements : List String := ["script", "style", "meta", "link", "title", "base"]

/-- Opens the outer elements that must surround an element of that name. -/
def imply (b : Builder) (name : String) : Builder :=
  if name == "html" then b
  else
    let b := if b.stack.isEmpty then b.push "html" [] else b
    if name == "body" || name == "head" then b
    else if b.stack.length ≤ 1 && headElements.contains name then
      if b.headSeen then b else b.push "head" []
    else if name == "noframes" || name == "frame" || name == "frameset" then b
    else if b.bodySeen || b.stack.any fun e => e.name == "body" || e.name == "head" then b
    else b.push "body" []

/-- Whether a start tag has no place: a second outer element of its kind. -/
def misplaced (b : Builder) (name : String) : Bool :=
  (name == "html" && !b.stack.isEmpty) || (name == "head" && b.stack.length != 1) ||
    (name == "body" && b.stack.any (·.name == "body"))

def opening (b : Builder) (name : String) (attributes : Attributes) (closed : Bool) : Builder :=
  let b := (b.closeFor name).imply name
  if b.misplaced name then { b with omitted := b.omitted + 1 }
  else
    let b := b.push name attributes
    if closed || voidElements.contains name then b.pop else b

/-- How many elements the end tag of that name closes, if it closes any. -/
def closes? (name : String) : List OpenElement → Option Nat
  | [] => none
  | e :: rest =>
    if e.name == name then some 1
    else if strength e.name > strength name then none
    else (closes? name rest).map (· + 1)

def closing (b : Builder) (name : String) : Builder :=
  if b.omitted > 0 && (name == "html" || name == "body" || name == "head") then
    { b with omitted := b.omitted - 1 }
  else match closes? name b.stack with
    | none => b
    | some n =>
      let b := b.popMany n
      { b with ended := b.stack.isEmpty }

/-- Reads text. Outside of the body, blanks are left out and anything else opens the body. -/
def text (b : Builder) (content : List Char) : Builder :=
  let outside := match b.current? with
    | none => true
    | some name => name == "html" || name == "head"
  if outside then
    match content.dropWhile isLayout with
    | [] => b
    | rest =>
      let b := if b.current? == some "head" then b.closeFor "p" else b
      let b := b.imply "p"
      { b with pending := rest.reverse ++ b.pending }
  else { b with pending := content.reverse ++ b.pending }

def step (b : Builder) (token : Token) : Builder :=
  if b.ended then b
  else match token with
    | .opening name attributes closed => b.opening name attributes closed
    | .closing name => b.closing name
    | .text content => b.text content
    | .comment => b.flush.add .comment

def finish (b : Builder) : List Node :=
  (b.popMany b.stack.length).flush.top.reverse

end Builder

def parse (source : String) : Place :=
  let source := if source.toList.head? == some (Char.ofNat 0xFEFF) then
    String.ofList (source.toList.drop 1) else source
  .document ((lex source).foldl Builder.step {}).finish

end PageHarvest.Document
