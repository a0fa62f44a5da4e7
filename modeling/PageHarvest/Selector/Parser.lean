import PageHarvest.Selector.Pseudo
import PageHarvest.Selector.Token

/-! # Reading selectors

A selector text is a list of alternatives separated by commas; an alternative is a chain of
compounds with combinators between them. Lists inside brackets are read in the same way, with small
differences: in a relative list every alternative begins with a combinator, and a forgiving list
may have empty alternatives, which match nothing.

Left out is that a reader runs out of room where lists are nested hundreds of times: here they are
read to any depth.
-/

namespace PageHarvest.Selector

/-- How a list of alternatives is read. -/
structure ListKind where
  nested : Bool := false
  relative : Bool := false
  forgiving : Bool := false

def ListKind.bracketed : ListKind := { nested := true }

/-- What has been read of a list: whole alternatives, the finished compounds of the alternative at
hand, each with the combinator behind it (in a relative list: in front of it), and the tests of the
compound at hand. -/
structure Draft where
  done : Alternatives := []
  chain : List (Combinator × List Test) := []
  tests : List Test := []
  texts : List (Bool × List (List Char)) := []
  begun : Bool := false
  leading : Combinator := .inside

namespace Draft

def add (draft : Draft) (test : Test) : Draft :=
  { draft with tests := draft.tests ++ [test], begun := true }

def compound (draft : Draft) : List Test :=
  draft.tests ++ if draft.texts.isEmpty then [] else [.contains draft.texts]

def fresh (draft : Draft) : Draft :=
  { draft with tests := [], texts := [], begun := false }

/-- The tests of an alternative, from its last compound backwards. -/
def backwardTests (chain : List (Combinator × List Test)) (last : List Test) : List Test :=
  last ++ chain.foldl (fun earlier (combinator, tests) =>
    [.related combinator.backward (tests ++ earlier)]) []

/-- The tests of a relative alternative, from its first compound forwards. -/
def forwardTests (chain : List (Combinator × List Test)) : List Test :=
  chain.foldr (fun (combinator, tests) later =>
    [.related combinator.forward (tests ++ later)]) []

def finish (draft : Draft) (relative : Bool) : Draft :=
  let tests := if relative then forwardTests (draft.chain ++ [(draft.leading, draft.compound)])
    else backwardTests draft.chain draft.compound
  { done := draft.done ++ [tests] }

/-- Ends the alternative at hand as one that matches nothing. -/
def giveUp (draft : Draft) : Draft := { done := draft.done ++ [[.never]] }

def combine (draft : Draft) (kind : ListKind) (combinator : Combinator) (position : Nat) :
    Except Fault Draft :=
  if combinator = .comma then
    if draft.begun then .ok (draft.finish kind.relative)
    else if kind.forgiving then .ok draft.giveUp
    else .error (.form (.lonelyCombinator ',') position)
  else if kind.relative then
    if draft.begun then
      .ok { draft.fresh with
        chain := draft.chain ++ [(draft.leading, draft.compound)], leading := combinator }
    else if draft.leading ≠ .inside then .error (.form .manyCombinators position)
    else .ok { draft.fresh with leading := combinator }
  else if draft.begun then
    .ok { draft.fresh with chain := draft.chain ++ [(combinator, draft.compound)] }
  else .error (.form (.lonelyCombinator combinator.char) position)

def close (draft : Draft) (kind : ListKind) (position : Nat) : Except Fault Alternatives :=
  if draft.begun then .ok (draft.finish kind.relative).done
  else if kind.forgiving && (draft.done.isEmpty || draft.chain.isEmpty) then .ok draft.giveUp.done
  else .error (.form .selectorExpected position)

end Draft

/-- A pseudo-class with a list in brackets, and how the list is read. -/
def listPseudo? (name : String) : Option (ListKind × (Alternatives → Test)) :=
  match name with
  | ":not" => some (.bracketed, .none)
  | ":has" => some ({ nested := true, relative := true }, .any)
  | ":is" | ":where" => some ({ nested := true, forgiving := true }, .any)
  | ":matches" | ":contains" | ":-soup-contains" | ":-soup-contains-own" => some (.bracketed, .any)
  | _ =>
    if Pseudo.ofNoElementWithList.contains name then some (.bracketed, fun _ => .never) else none

/-- A pseudo-class without a list. -/
def plainPseudo (name : String) (position : Nat) : Except Fault Test :=
  match Pseudo.ofName? name with
  | some alternatives => .ok (.any alternatives)
  | none =>
    if Pseudo.ofNoElement.contains name then .ok .never
    else if Pseudo.isKnown name then .error (.form (.badArguments name) position)
    else .error (.form (.unknownPseudo name) position)

/-- Reads a list up to its closing bracket, or up to the last `tail` characters when it stands in
no brackets. Positions count from the front of `total` characters; `last` is where the last token
of the list ended. The fuel bounds the number of tokens. -/
def readList (total tail : Nat) :
    Nat → ListKind → Draft → Nat → List Char → Except Fault (Alternatives × List Char)
  | 0, _, _, last, _ => .error (.form .selectorExpected last)
  | fuel + 1, kind, draft, last, s => do
    if s.length ≤ tail then
      if kind.nested then throw (.form .unclosed last)
      return (← draft.close kind last, s)
    let position := total - s.length
    let (token, rest) ← nextToken position s
    let next := total - rest.length
    match token with
    | .close =>
      if !draft.begun && !kind.forgiving then throw (.form .selectorExpected position)
      if !kind.nested then throw (.form .unmatchedClose position)
      return (← draft.close kind last, rest)
    | .combinator combinator =>
      readList total tail fuel kind (← draft.combine kind combinator position) next rest
    | .test test => readList total tail fuel kind (draft.add test) next rest
    | .tag test =>
      if draft.begun then throw (.form .lateName position)
      let draft := match test with
        | some test => draft.add test
        | none => { draft with begun := true }
      readList total tail fuel kind draft next rest
    | .contains own texts =>
      let draft := { draft with texts := draft.texts ++ [(own, texts)], begun := true }
      readList total tail fuel kind draft next rest
    | .positionOf positions fromEnd =>
      let (among, rest) ← readList total tail fuel .bracketed {} next rest
      let draft := draft.add (.position positions false fromEnd among)
      readList total tail fuel kind draft next rest
    | .pseudo name opens =>
      match opens, listPseudo? name with
      | true, some (inner, test) =>
        let (alternatives, rest) ← readList total tail fuel inner {} next rest
        readList total tail fuel kind (draft.add (test alternatives)) next rest
      | true, none =>
        let known := Pseudo.isKnown name
        throw (.form (if known then .badArguments name else .unknownPseudo name) position)
      | false, _ =>
        readList total tail fuel kind (draft.add (← plainPseudo name position)) next rest
    | .custom name => throw (.form (.undefinedCustom name) next)
    | .pseudoElement => throw (.unsupported (.pseudoElement position))
    | .pageRule => throw (.unsupported (.pageRule position))

/-- The number of characters at the end that are blanks and comments. -/
def tailLength : List Char → Nat
  | [] => 0
  | c :: rest => if (skipGap (c :: rest)).isEmpty then rest.length + 1 else tailLength rest

/-- A text in the form in which it is read. -/
def readable (text : String) : List Char :=
  text.toList.map fun c => if c.toNat == 0 then Char.ofNat 0xFFFD else c

def parse (text : String) : Except Fault Alternatives :=
  let s := readable text
  let inner := skipGap s
  (readList s.length (tailLength s) (s.length + 1) {} {} (s.length - inner.length) inner).map (·.1)

end PageHarvest.Selector
