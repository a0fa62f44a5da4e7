import PageHarvest.Document.Node
import PageHarvest.Document.Reference

/-! # Tokens of a document

A document text is read as a list of tags, texts and comments. Names of tags and attributes are
lower-cased, line ends are unified and character references replaced. Anything that is no tag is
text; nothing is ever refused.
-/

namespace PageHarvest.Document

/-- A token. -/
inductive Token where
  /-- A start tag; `closed` says that it ends with a slash. -/
  | opening (name : String) (attributes : Attributes) (closed : Bool)
  | closing (name : String)
  | text (content : List Char)
  | comment

/-- Blanks inside tags. -/
def isTagBlank (c : Char) : Bool :=
  c == ' ' || c == '\n' || c == '\t' || c == '\r' || c.toNat == 12

/-- Unifies line ends, and replaces the character that no document may hold. -/
def unify : List Char → List Char
  | '\r' :: '\n' :: rest => '\n' :: unify rest
  | '\r' :: rest => '\n' :: unify rest
  | c :: rest => (if c.toNat == 0 then Char.ofNat 0xFFFD else c) :: unify rest
  | [] => []

def lowerAscii (s : List Char) : String := String.ofList (s.map Char.toLower)

/-- The text in front of and behind the first occurrence; all of it if there is none. -/
def cutOrAll (sep s : List Char) : List Char × List Char :=
  (Text.cut sep s).getD (s, [])

def lexValue (s : List Char) : List Char × List Char :=
  match s with
  | '"' :: rest => cutOrAll ['"'] rest
  | '\'' :: rest => cutOrAll ['\''] rest
  | _ => s.span fun c => !isTagBlank c && c != '>'

/-- The attributes of a tag up to its end, whether it ends with a slash, and what follows the tag;
nothing if the tag never ends. The fuel bounds the length. -/
def lexAttributes : Nat → List Char → Option (Attributes × Bool × List Char)
  | 0, _ => none
  | fuel + 1, s =>
    match s.dropWhile isTagBlank with
    | [] => none
    | '>' :: rest => some ([], false, rest)
    | '/' :: '>' :: rest => some ([], true, rest)
    | '/' :: rest => lexAttributes fuel rest
    | first :: body =>
      let (more, rest) := body.span fun c => !isTagBlank c && c != '/' && c != '>' && c != '='
      let name := lowerAscii (first :: more)
      let (value, rest) := match rest.dropWhile isTagBlank with
        | '=' :: after => lexValue (after.dropWhile isTagBlank)
        | _ => ([], rest)
      match lexAttributes fuel rest with
      | none => none
      | some (attributes, closed, rest) =>
        let here := (name, String.ofList (decodeReferences true value))
        some (here :: attributes.filter (·.1 != name), closed, rest)

/-- A tag whose name starts the text. -/
def lexTag (s : List Char) : Option (String × Attributes × Bool × List Char) :=
  let (name, rest) := s.span fun c => !isTagBlank c && c != '/' && c != '>'
  (lexAttributes (rest.length + 1) rest).map fun (attributes, closed, rest) =>
    (lowerAscii name, attributes, closed, rest)

def afterComment (s : List Char) : List Char :=
  match s with
  | '>' :: rest => rest
  | '-' :: '>' :: rest => rest
  | _ => go s
where
  /-- Looks for the first end of a comment. -/
  go : List Char → List Char
    | '-' :: '-' :: '>' :: rest => rest
    | '-' :: '-' :: '!' :: '>' :: rest => rest
    | _ :: rest => go rest
    | [] => []

/-- How the content of an element is read. -/
inductive Content where
  | markup
  /-- Text with character references, up to the end tag. -/
  | escaped
  /-- Text as it stands, up to the end tag. -/
  | raw
  /-- Text as it stands, up to the end of the document. -/
  | rest

def Content.ofName (name : String) : Content :=
  if ["script", "style", "xmp", "iframe", "noembed", "noframes"].contains name then .raw
  else if ["title", "textarea"].contains name then .escaped
  else if name == "plaintext" then .rest
  else .markup

/-- The text up to the end tag of that name, and the end tag with what follows it. -/
def untilClosing (name : List Char) : List Char → List Char × List Char
  | [] => ([], [])
  | c :: rest =>
    let opens := match c :: rest with
      | '<' :: '/' :: body =>
        (body.take name.length).map Char.toLower == name &&
          (match body.drop name.length with
            | e :: _ => isTagBlank e || e == '/' || e == '>'
            | [] => false)
      | _ => false
    if opens then ([], c :: rest)
    else
      let (inner, after) := untilClosing name rest
      (c :: inner, after)

/-- Whether `<` followed by this text is markup. -/
def startsMarkup (s : List Char) : Bool :=
  match s with
  | c :: _ => isLetter c || c == '/' || c == '!' || c == '?'
  | [] => false

/-- Text up to the next `<`. -/
def textToken (first : List Char) (s : List Char) : Token × List Char :=
  let (more, rest) := s.span (· != '<')
  (.text (decodeReferences false (first ++ more)), rest)

/-- The tokens of a text without carriage returns; the fuel bounds its length. -/
def lexWith : Nat → List Char → List Token
  | 0, _ => []
  | _ + 1, [] => []
  | fuel + 1, '<' :: s =>
    if startsMarkup s then
      match s with
      | '!' :: '-' :: '-' :: rest => .comment :: lexWith fuel (afterComment rest)
      | '!' :: rest =>
        let after := (cutOrAll ['>'] rest).2
        if (rest.take 7).map Char.toLower == "doctype".toList then lexWith fuel after
        else .comment :: lexWith fuel after
      | '?' :: rest => .comment :: lexWith fuel (cutOrAll ['>'] rest).2
      | ['/'] => [.text ['<', '/']]
      | '/' :: '>' :: rest => lexWith fuel rest
      | '/' :: c :: rest =>
        if isLetter c then
          match lexTag (c :: rest) with
          | some (name, _, _, after) => .closing name :: lexWith fuel after
          | none => []
        else .comment :: lexWith fuel (cutOrAll ['>'] (c :: rest)).2
      | _ => match lexTag s with
        | none => []
        | some (name, attributes, closed, after) =>
          let tag := Token.opening name attributes closed
          if closed then tag :: lexWith fuel after
          else match Content.ofName name with
            | .markup => tag :: lexWith fuel after
            | .rest => [tag, .text after]
            | .raw =>
              let (inner, after) := untilClosing name.toList after
              tag :: .text inner :: lexWith fuel after
            | .escaped =>
              let (inner, after) := untilClosing name.toList after
              tag :: .text (decodeReferences false inner) :: lexWith fuel after
    else
      let (token, rest) := textToken ['<'] s
      token :: lexWith fuel rest
  | fuel + 1, s =>
    let (token, rest) := textToken [] s
    token :: lexWith fuel rest

def lex (source : String) : List Token :=
  let s := unify source.toList
  lexWith (s.length + 1) s

end PageHarvest.Document
