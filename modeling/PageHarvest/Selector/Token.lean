import PageHarvest.Selector.Lexical

/-! # Tokens of selector texts

`nextToken` reads the token at the front of a text. Which token it is does not depend on what
came before. A pseudo-class whose arguments do not have the form that its name asks for is read as
a bare name with an opening bracket and is refused later.
-/

namespace PageHarvest.Selector

/-- What stands between two compounds or alternatives. -/
inductive Combinator where
  | comma | inside | child | next | later
  deriving DecidableEq

def Combinator.char : Combinator → Char
  | .comma => ','
  | .inside => ' '
  | .child => '>'
  | .next => '+'
  | .later => '~'

/-- The combinator of a character that is no blank. -/
def Combinator.ofChar? (c : Char) : Option Combinator :=
  [Combinator.comma, .child, .next, .later].find? (·.char == c)

/-- The hop from the compound behind a combinator to the one in front of it. -/
def Combinator.backward : Combinator → Hop
  | .comma | .inside => .ancestor
  | .child => .parent
  | .next => .previousSibling
  | .later => .earlierSibling

/-- The hop from the place in front of a combinator to the compound behind it. -/
def Combinator.forward : Combinator → Hop
  | .comma | .inside => .descendant
  | .child => .child
  | .next => .nextSibling
  | .later => .laterSibling

/-- A token. -/
inductive Token where
  | close
  | combinator (combinator : Combinator)
  | test (test : Test)
  /-- An element name; none is any name. -/
  | tag (test : Option Test)
  | contains (own : Bool) (texts : List (List Char))
  /-- A position among the elements of a list that follows. -/
  | positionOf (positions : Positions) (fromEnd : Bool)
  | pseudo (name : String) (opens : Bool)
  | custom (name : String)
  | pseudoElement
  | pageRule

/-- The name of a pseudo-class with its colon, in lower case. -/
def pseudoName? (s : List Char) : Except Fault (Option (String × List Char)) := do
  match s with
  | ':' :: rest =>
    match name? rest with
    | none => return none
    | some (source, after) =>
      return some (String.ofList (':' :: (← unescape false source).map Char.toLower), after)
  | _ => return none

/-- Whatever follows a closing bracket behind blanks. -/
def closed? (s : List Char) : Option (List Char) :=
  match skipGap s with
  | ')' :: after => some after
  | _ => none

/-- The arguments of a pseudo-class that takes texts, positions or languages. -/
def special? (name : String) (s : List Char) : Except Fault (Option (Token × List Char)) := do
  let texts := do
    match values? (s.length + 1) s with
    | none => return none
    | some (raw, after) => return some (← raw.mapM RawValue.value, after)
  match name with
  | ":contains" | ":-soup-contains" | ":-soup-contains-own" =>
    return (← texts).map fun (texts, after) =>
      (.contains (name == ":-soup-contains-own") texts, after)
  | ":lang" => return (← texts).map fun (ranges, after) => (.test (.language ranges), after)
  | ":nth-of-type" | ":nth-last-of-type" =>
    let some (positions, rest) := positions? s | return none
    let some after := closed? rest | return none
    return some (.test (.position (← positions) true (name == ":nth-last-of-type") []), after)
  | ":nth-child" | ":nth-last-child" =>
    let some (positions, rest) := positions? s | return none
    let fromEnd := name == ":nth-last-child"
    match closed? rest, of? rest with
    | some after, _ => return some (.test (.position (← positions) false fromEnd []), after)
    | none, some after => return some (.positionOf (← positions) fromEnd, after)
    | none, none => return none
  | _ => return none

def pseudo? (s : List Char) : Except Fault (Option (Token × List Char)) := do
  match ← pseudoName? s with
  | some (name, rest) =>
    match rest with
    | '(' :: inner =>
      match ← special? name (skipGap inner) with
      | some found => return some found
      | none =>
        if "--".toList.isPrefixOf (s.drop 1) then return some (.custom name, rest)
        else return some (.pseudo name true, skipGap inner)
    | _ =>
      if "--".toList.isPrefixOf (s.drop 1) then return some (.custom name, rest)
      else return some (.pseudo name false, rest)
  | none =>
    match s with
    | ':' :: rest => return (← pseudoName? rest).map fun (_, after) => (.pseudoElement, after)
    | _ => return none

def nameOrStar? (s : List Char) : Option (List Char × List Char) :=
  match s with
  | '*' :: after => some (['*'], after)
  | _ => name? s

/-- A name behind an optional namespace, of which only the star and none at all are known. -/
def qualified? (part : List Char → Option (List Char × List Char)) (s : List Char) :
    Option (Option (List Char) × List Char × List Char) :=
  let (space, rest) := (nameOrStar? s).getD ([], s)
  let behindBar := match rest with
    | '|' :: rest => (part rest).map fun (name, after) => (some space, name, after)
    | _ => none
  behindBar <|> (part s).map fun (name, after) => (none, name, after)

/-- An element name. A namespace other than any leaves nothing. -/
def tag? (s : List Char) : Except Fault (Option (Token × List Char)) := do
  match qualified? nameOrStar? s with
  | none => return none
  | some (space, source, after) =>
    let name ← unescape false source
    if space.any (· != ['*']) then return some (.tag (some .never), after)
    else if name == ['*'] then return some (.tag none, after)
    else return some (.tag (some (.name (String.ofList (name.map Char.toLower)))), after)

/-- The comparison of an attribute test, and whether it is turned round. -/
def comparison? (s : List Char) : Option (Comparison × Bool × List Char) :=
  match s with
  | '=' :: rest => some (.equal, false, rest)
  | '!' :: '=' :: rest => some (.equal, true, rest)
  | '~' :: '=' :: rest => some (.word, false, rest)
  | '|' :: '=' :: rest => some (.dashWord, false, rest)
  | '^' :: '=' :: rest => some (.start, false, rest)
  | '$' :: '=' :: rest => some (.finish, false, rest)
  | '*' :: '=' :: rest => some (.anywhere, false, rest)
  | _ => none

def bracketClosed? (s : List Char) : Option (List Char) :=
  match skipGap s with
  | ']' :: after => some after
  | _ => none

/-- The value of an attribute test with its flag, up to the bracket that ends it. -/
def comparedValue? (s : List Char) : Option (RawValue × Option Char × List Char) := do
  let (raw, rest) ← value? (skipGap s)
  match bracketClosed? rest with
  | some after => some (raw, none, after)
  | none => match skipGap rest with
    | c :: rest =>
      if c.toLower == 'i' || c.toLower == 's' then
        (bracketClosed? rest).map fun after => (raw, some c.toLower, after)
      else none
    | [] => none

/-- An attribute test. The value of `type` is compared without regard to case unless a flag asks
for it. -/
def attr? (s : List Char) : Except Fault (Option (Token × List Char)) := do
  match s with
  | '[' :: rest =>
    match qualified? name? (skipGap rest) with
    | none => return none
    | some (_, source, rest) =>
      let name := String.ofList ((← unescape false source).map Char.toLower)
      match comparison? (skipGap rest) with
      | none => return (bracketClosed? rest).map fun after => (.test (.attr name none), after)
      | some (comparison, inverted, rest) =>
        match comparedValue? rest with
        | none => return none
        | some (raw, flag, after) =>
          let ignoreCase := if flag.isSome then flag == some 'i' else name == "type"
          let test := Test.attr name (some ⟨comparison, ← raw.value, ignoreCase⟩)
          return some (.test (if inverted then .none [[test]] else test), after)
  | _ => return none

def combinator? (s : List Char) : Option (Token × List Char) :=
  let (blank, rest) := gap s
  let behind := match rest with
    | c :: after => (Combinator.ofChar? c).map fun kind => (Token.combinator kind, skipGap after)
    | [] => none
  behind <|> if blank then some (.combinator .inside, rest) else none

/-- A word behind a mark: an id, a class or a page rule. -/
def marked? (s : List Char) : Except Fault (Option (Token × List Char)) := do
  match s with
  | '&' :: after => return some (.test .scope, after)
  | '@' :: c :: rest =>
    if c.toLower == 'p' then return (name? rest).map fun (_, after) => (.pageRule, after)
    else return none
  | '#' :: rest =>
    let some (source, after) := name? rest | return none
    return some (.test (.id (String.ofList (← unescape false source))), after)
  | '.' :: rest =>
    let some (source, after) := name? rest | return none
    return some (.test (.classWord (String.ofList (← unescape false source))), after)
  | _ => return none

/-- The fault of a text that begins with no token. -/
def noToken (s : List Char) : FormFault :=
  match s with
  | '[' :: _ => .badAttribute
  | '.' :: _ => .badClass
  | '#' :: _ => .badId
  | ':' :: _ => .badPseudoClass
  | c :: _ => .badCharacter c
  | [] => .selectorExpected

/-- The token at the front of a text, which begins at a position. -/
def nextToken (position : Nat) (s : List Char) : Except Fault (Token × List Char) := do
  if let some after := closed? s then return (.close, after)
  if let some found ← pseudo? s then return found
  if let some found ← marked? s then return found
  if let some found ← tag? s then return found
  if let some found ← attr? s then return found
  if let some found := combinator? s then return found
  throw (.form (noToken s) position)

end PageHarvest.Selector
