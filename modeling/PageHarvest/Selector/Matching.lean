import PageHarvest.Document.Place
import PageHarvest.Selector.Basic
import PageHarvest.Selector.Range
import PageHarvest.Text.Lowercase
import PageHarvest.Text.Search

/-! # Matching elements

Whether an element passes a test depends on the whole document around it and on the element that
the search started from. `select` gives the elements inside a place that pass some alternative, in
document order.
-/

namespace PageHarvest.Selector

open Document Text

def isSpace (c : Char) : Bool :=
  c == ' ' || c == '\t' || c == '\n' || c == '\r' || c.toNat == 12

/-- Cuts a text into its words. -/
def spacedWords (s : List Char) : List (List Char) :=
  (s.splitBy fun a b => isSpace a == isSpace b).filter fun piece => !piece.all isSpace

/-- Whether a text is a value, where a single line feed at the end does not count. -/
def endsAs (s value : List Char) : Bool :=
  s == value || s == value ++ ['\n']

/-- Whether a value passes a test. Nothing starts with, ends with or contains the empty text, and
no word is empty or holds a blank. -/
def ValueTest.holds (test : ValueTest) (value : List Char) : Bool :=
  let fold := fun s => if test.ignoreCase then s.map foldChar else s
  let wanted := fold test.value
  let actual := fold value
  match test.comparison with
  | .equal => endsAs actual wanted
  | .dashWord => endsAs actual wanted || (wanted ++ ['-']).isPrefixOf actual
  | .start => !wanted.isEmpty && wanted.isPrefixOf actual
  | .finish =>
    !wanted.isEmpty && (wanted.isSuffixOf actual || (wanted ++ ['\n']).isSuffixOf actual)
  | .anywhere => !wanted.isEmpty && occursIn wanted actual
  | .word => !wanted.isEmpty && !wanted.any isSpace && (spacedWords actual).contains wanted

/-- Whether a position, counted from one, is among the given ones. -/
def Positions.contains (p : Positions) (position : Int) : Bool :=
  if !p.repeats then position == p.offset
  else if p.step == 0 then position == p.offset
  else (position - p.offset) % p.step == 0 && 0 ≤ (position - p.offset) / p.step

/-- The language of an element: its own `lang` attribute or the nearest around it. An empty one is
passed over, but is better than none. -/
def ownLanguage? (p : Place) : Option (List Char) :=
  let languages := (p :: p.ancestors).filterMap fun q => (q.attribute? "lang").map String.toList
  match languages.find? (!·.isEmpty) with
  | some language => some language
  | none => languages.head?

/-- The language that the head of a document declares for all of it. -/
def declaredLanguage? (p : Place) : Option (List Char) := do
  let html ← p.top.children.find? (·.name == "html")
  let head ← html.children.find? (·.name == "head")
  head.children.findSome? fun child =>
    if child.name != "meta" then none
    else
      let isDeclaration := (child.attribute? "http-equiv").any fun v =>
        v.toList.map Char.toLower == "content-language".toList
      match child.attribute? "content" with
      | some content => if isDeclaration && !content.isEmpty then some content.toList else none
      | none => none

/-- Drops the wildcards behind the first part of a language range. One at the end leaves an empty
part, which matches nothing. -/
def dropWildcards (parts : List (List Char)) : List (List Char) :=
  match parts with
  | [] => []
  | first :: rest =>
    first :: rest.filter (· != ['*']) ++ if rest.getLast? == some ['*'] then [[]] else []

/-- Matches the parts of a range behind the first with those of a language. -/
def partsMatch : List (List Char) → List (List Char) → Bool
  | [], _ => true
  | _ :: _, [] => false
  | wanted :: more, part :: rest =>
    if wanted.isEmpty then false
    else if wanted == part then partsMatch more rest
    else if part.length == 1 then false
    else partsMatch (wanted :: more) rest

/-- Whether a language lies in a range. -/
def inRange (range language : List Char) : Bool :=
  let wanted := dropWildcards (splitAt ['-'] (lower range))
  let parts := splitAt ['-'] (lower language)
  match wanted, parts with
  | first :: more, primary :: rest =>
    if first.isEmpty && more.isEmpty && primary.isEmpty && rest.isEmpty then true
    else if first == ['*'] then !(primary.isEmpty && rest.isEmpty) && partsMatch more rest
    else first == primary && partsMatch more rest
  | _, _ => false

/-- Whether one group of texts has a member that occurs. The first group decides whether all of
them look at the whole text or at the separate texts directly inside. -/
def groupOccurs (p : Place) (firstOwn : Bool) (group : Bool × List (List Char)) : Bool :=
  let (own, texts) := group
  texts.any fun text => match firstOwn, own with
    | true, true => p.ownTexts.any (occursIn text)
    | false, false => occursIn text p.allText
    | true, false => p.ownTexts.contains text
    | false, true => p.allText.any fun c => occursIn text [c]

/-- The relatives that a hop leads to. -/
def Hop.relatives (hop : Hop) (p : Place) : List Place :=
  match hop with
  | .ancestor => p.ancestors
  | .parent => p.parent?.toList
  | .earlierSibling => p.earlierSiblings
  | .previousSibling => p.earlierSiblings.take 1
  | .descendant => p.descendants
  | .child => p.children
  | .laterSibling => p.laterSiblings
  | .nextSibling => p.laterSiblings.take 1

/-- Whether nothing but blanks and comments lies beside a place. -/
def alone (p : Place) : Bool :=
  (p.before ++ p.after).all fun
    | .element .. => false
    | .text _ content => isBlankText content.toList
    | .comment => true

/-- Whether there are neither elements nor text inside a place. -/
def isHollow (p : Place) : Bool :=
  p.nodes.all fun
    | .element .. => false
    | .text _ content => content.toList.all isSpace
    | .comment => true

/-- The type of an input, in lower case. -/
def typeOf (p : Place) : String :=
  String.ofList (((p.attribute? "type").getD "").toList.map Char.toLower)

/-- The first element of a form that submits it, if no other form begins before it. -/
def submitter? : List Place → Option Place
  | [] => none
  | p :: rest =>
    if p.name == "form" then none
    else if (p.name == "input" || p.name == "button") && typeOf p == "submit" then some p
    else submitter? rest

/-- The form around a place, or the whole document if there is none. -/
def formAround (p : Place) : Place := (p.ancestors.find? (·.name == "form")).getD p.top

/-- Whether no radio button of the same name in the same form is checked. -/
def isUnchosen (p : Place) : Bool :=
  (formAround p).descendants.all fun q =>
    q.same p || q.name != "input" || typeOf q != "radio" || (q.attribute? "checked").isNone ||
      q.attribute? "name" != p.attribute? "name" || !(formAround q).same (formAround p)

mutual

/-- Whether a place passes a test, in a search that started at `scope`. -/
def Test.holds (scope : Place) : Test → Place → Bool
  | .never, _ => false
  | .name name, p => p.name.toList.map Char.toLower == name.toList
  | .id value, p => (p.attribute? "id").getD "" == value
  | .classWord word, p => (spacedWords ((p.attribute? "class").getD "").toList).contains word.toList
  | .attr name value, p =>
    match p.attributes.find? fun (own, _) => own.toList.map Char.toLower == name.toList with
    | none => false
    | some (_, actual) => value.all (·.holds actual.toList)
  | .root, p => p.root?.any (·.same p) && alone p
  | .scope, p => p.same scope
  | .hollow, p => isHollow p
  | .plain, p => !p.name.contains '-' || p.name.contains ':'
  | .submits, p => (submitter? (formAround p).descendants).any (·.same p)
  | .unchosen, p => isUnchosen p
  | .range outside, p =>
    let limits := liesOutside? (typeOf p) (p.attribute? "min") (p.attribute? "max")
    limits (p.attribute? "value") == some outside
  | .contains groups, p =>
    match groups with
    | [] => true
    | (own, _) :: _ => groups.all (groupOccurs p own)
  | .language ranges, p =>
    match ownLanguage? p <|> declaredLanguage? p with
    | none => false
    | some language => ranges.any (inRange · language)
  | .position positions sameName fromEnd among, p =>
    let counts := fun (q : Place) =>
      if sameName then q.name == p.name else among.isEmpty || holdsAny scope among q
    let siblings := if fromEnd then p.laterSiblings else p.earlierSiblings
    counts p && positions.contains ((siblings.filter counts).length + 1)
  | .any alternatives, p => holdsAny scope alternatives p
  | .none alternatives, p => !holdsAny scope alternatives p
  | .related hop tests, p => (hop.relatives p).any fun q => holdsAll scope tests q

def holdsAll (scope : Place) : List Test → Place → Bool
  | [], _ => true
  | test :: rest, p => test.holds scope p && holdsAll scope rest p

def holdsAny (scope : Place) : List (List Test) → Place → Bool
  | [], _ => false
  | tests :: rest, p => holdsAll scope tests p || holdsAny scope rest p

end

/-- The place that `:scope` stands for in a search inside `p`. -/
def scopeOf (p : Place) : Place :=
  match p with
  | .document _ => p.root?.getD p
  | _ => p

/-- The elements inside a place that pass some alternative, in document order. -/
def select (alternatives : Alternatives) (p : Place) : List Place :=
  p.descendants.filter (holdsAny (scopeOf p) alternatives)

end PageHarvest.Selector
