import PageHarvest.Selector.Basic
import PageHarvest.Selector.Fault
import PageHarvest.Selector.Matching

/-! # Words of selector texts

Gaps, names, quoted values and positions, each read from the front of a text together with what
follows. Readers of names and values give the source text; `unescape` gives what it stands for.
-/

namespace PageHarvest.Selector

/-- Blanks and comments at the front are dropped; also says whether there was a blank. The fuel
bounds the length. -/
def skipGapWith : Nat → Bool → List Char → Bool × List Char
  | 0, blank, s => (blank, s)
  | fuel + 1, blank, s =>
    match s with
    | '/' :: '*' :: rest =>
      match Text.cut ['*', '/'] rest with
      | some (_, after) => skipGapWith fuel blank after
      | none => (blank, s)
    | c :: rest => if isSpace c then skipGapWith fuel true rest else (blank, s)
    | [] => (blank, [])

/-- Whether there is a blank at the front, and what follows blanks and comments. -/
def gap (s : List Char) : Bool × List Char := skipGapWith s.length false s

/-- What follows blanks and comments. -/
def skipGap (s : List Char) : List Char := (gap s).2

def isHex (c : Char) : Bool :=
  ('0' ≤ c && c ≤ '9') || ('a' ≤ c.toLower && c.toLower ≤ 'f')

def isLineEnd (c : Char) : Bool := c == '\n' || c == '\r' || c.toNat == 12

/-- One blank after the digits of an escape, a pair of line ends counting as one. -/
def afterDigits (s : List Char) : List Char :=
  match s with
  | '\r' :: '\n' :: rest => rest
  | c :: rest => if isSpace c then rest else s
  | [] => []

/-- The number of characters of the escape that follows a backslash. -/
def escapeLength? (s : List Char) : Option Nat :=
  match s with
  | [] => some 0
  | c :: _ =>
    let digits := (s.take 6).takeWhile isHex
    if !digits.isEmpty then
      let rest := s.drop digits.length
      some (digits.length + (rest.length - (afterDigits rest).length))
    else if isLineEnd c then none
    else some 1

/-- Characters that a name may begin with, besides escapes and a hyphen. -/
def startsName (c : Char) : Bool :=
  ('a' ≤ c && c ≤ 'z') || ('A' ≤ c && c ≤ 'Z') || c == '_' || 0xA0 ≤ c.toNat

/-- Characters that a name may go on with, besides escapes. -/
def inName (c : Char) : Bool := startsName c || ('0' ≤ c && c ≤ '9') || c == '-'

/-- The longest run of characters that satisfy `p` and of escapes; the fuel bounds its length. -/
def takeNameWith (p : Char → Bool) : Nat → List Char → List Char × List Char
  | 0, s => ([], s)
  | fuel + 1, s =>
    match s with
    | '\\' :: rest =>
      match escapeLength? rest with
      | some n =>
        let (more, after) := takeNameWith p fuel (rest.drop n)
        ('\\' :: rest.take n ++ more, after)
      | none => ([], s)
    | c :: rest =>
      if p c then
        let (more, after) := takeNameWith p fuel rest
        (c :: more, after)
      else ([], s)
    | [] => ([], [])

def takeName (p : Char → Bool) (s : List Char) : List Char × List Char :=
  takeNameWith p (s.length + 1) s

def name? (s : List Char) : Option (List Char × List Char) :=
  let (hyphen, body) := match s with
    | '-' :: rest => (['-'], rest)
    | _ => ([], s)
  match takeName startsName body with
  | ([], _) =>
    match s with
    | '-' :: '-' :: rest =>
      let (more, after) := takeName inName rest
      some ('-' :: '-' :: more, after)
    | _ => none
  | (first, rest) =>
    let (more, after) := takeName inName rest
    some (hyphen ++ first ++ more, after)

/-- The rest of a quoted value up to its quote, escapes left as they are. -/
def quotedRest (quote : Char) : List Char → Option (List Char × List Char)
  | [] => none
  | '\\' :: '\r' :: '\n' :: rest =>
    (quotedRest quote rest).map fun (inner, after) => ('\\' :: '\r' :: '\n' :: inner, after)
  | '\\' :: c :: rest =>
    (quotedRest quote rest).map fun (inner, after) => ('\\' :: c :: inner, after)
  | ['\\'] => none
  | c :: rest =>
    if c == quote then some ([], rest)
    else if isLineEnd c then none
    else (quotedRest quote rest).map fun (inner, after) => (c :: inner, after)

def hexNumber (digits : List Char) : Nat :=
  digits.foldl (fun n c => 16 * n + (if c.isDigit then c.toNat - 48 else c.toLower.toNat - 87)) 0

/-- The character of a number. Zero and the units of pairs give the replacement character. -/
def escapedChar (n : Nat) : Except Fault Char :=
  if 0x10FFFF < n then .error (.unsupported .codePoint)
  else if n == 0 || (0xD800 ≤ n && n < 0xE000) then .ok (Char.ofNat 0xFFFD)
  else .ok (Char.ofNat n)

/-- What a source text with escapes stands for. A line end after a backslash disappears inside
quotes. The fuel bounds the length. -/
def unescapeWith (inQuotes : Bool) : Nat → List Char → Except Fault (List Char)
  | 0, s => .ok s
  | fuel + 1, s =>
    match s with
    | [] => .ok []
    | ['\\'] => .ok [Char.ofNat 0xFFFD]
    | '\\' :: c :: rest => do
      let digits := ((c :: rest).take 6).takeWhile isHex
      if !digits.isEmpty then
        let d ← escapedChar (hexNumber digits)
        return d :: (← unescapeWith inQuotes fuel (afterDigits ((c :: rest).drop digits.length)))
      else if isLineEnd c then
        if inQuotes then unescapeWith inQuotes fuel (afterDigits (c :: rest))
        else return '\\' :: c :: (← unescapeWith inQuotes fuel rest)
      else return c :: (← unescapeWith inQuotes fuel rest)
    | c :: rest => return c :: (← unescapeWith inQuotes fuel rest)

def unescape (inQuotes : Bool) (s : List Char) : Except Fault (List Char) :=
  unescapeWith inQuotes s.length s

/-- A value: quoted or a name. -/
structure RawValue where
  inQuotes : Bool
  source : List Char

def RawValue.value (raw : RawValue) : Except Fault (List Char) := unescape raw.inQuotes raw.source

def value? (s : List Char) : Option (RawValue × List Char) :=
  match s with
  | '"' :: rest => (quotedRest '"' rest).map fun (inner, after) => (⟨true, inner⟩, after)
  | '\'' :: rest => (quotedRest '\'' rest).map fun (inner, after) => (⟨true, inner⟩, after)
  | _ => (name? s).map fun (name, after) => (⟨false, name⟩, after)

/-- Values separated by commas, up to a closing bracket. The fuel bounds their number. -/
def values? : Nat → List Char → Option (List RawValue × List Char)
  | 0, _ => none
  | fuel + 1, s =>
    match value? s with
    | none => none
    | some (first, rest) =>
      match skipGap rest with
      | ')' :: after => some ([first], after)
      | ',' :: more =>
        (values? fuel (skipGap more)).map fun (others, after) => (first :: others, after)
      | _ => none

def isDigit (c : Char) : Bool := '0' ≤ c && c ≤ '9'

/-- The number of a list of digits, after a sign. -/
def signed (sign : Option Char) (digits : List Char) : Except Fault Int :=
  if Text.maxDigits < digits.length then .error (.unsupported (.tooManyDigits digits.length))
  else
    let n : Int := digits.foldl (fun n c => 10 * n + (c.toNat - 48)) (0 : Nat)
    .ok (if sign == some '-' then -n else n)

def sign? (s : List Char) : Option Char × List Char :=
  match s with
  | '-' :: rest => (some '-', rest)
  | '+' :: rest => (some '+', rest)
  | _ => (none, s)

/-- The offset behind a step, if there is one. -/
def offset? (s : List Char) : Option (Except Fault Int × List Char) :=
  match sign? (skipGap s) with
  | (none, _) => none
  | (sign, rest) =>
    let (digits, after) := (skipGap rest).span isDigit
    if digits.isEmpty then none else some (signed sign digits, after)

/-- What follows a word in any case. -/
def word? (word : String) (s : List Char) : Option (List Char) :=
  if (s.take word.length).map Char.toLower == word.toList then some (s.drop word.length) else none

/-- Positions: a number, a step with an offset, or one of the words for even and odd. The numbers
are made when all is read. -/
def positions? (s : List Char) : Option (Except Fault Positions × List Char) :=
  let (sign, body) := sign? s
  let (digits, rest) := body.span isDigit
  let stepped := match rest with
    | c :: after => if c.toLower == 'n' then some after else none
    | [] => none
  match stepped with
  | some after =>
    let step := if digits.isEmpty then signed sign ['1'] else signed sign digits
    let (offset, after) := (offset? after).getD (.ok 0, after)
    some (do return ⟨← step, ← offset, true⟩, after)
  | none =>
    if !digits.isEmpty then some (do return ⟨0, ← signed sign digits, false⟩, rest)
    else match word? "even" s with
      | some after => some (.ok ⟨2, 0, true⟩, after)
      | none => (word? "odd" s).map fun after => (.ok ⟨2, 1, true⟩, after)

/-- What follows the word `of` between blanks. -/
def of? (s : List Char) : Option (List Char) :=
  match gap s with
  | (true, rest) =>
    match word? "of" rest with
    | some after => match gap after with
      | (true, rest) => some rest
      | _ => none
    | none => none
  | _ => none

end PageHarvest.Selector
