import PageHarvest.Text.Quoted

/-! # Decoding UTF-8

Bytes are decoded from the front; the first sequence that is no character ends the work and is
reported with the bytes that belong to it.
-/

namespace PageHarvest.Text.Utf8

/-- Why bytes are no character. -/
inductive Cause where
  | badStart
  | badContinuation
  | unfinished
  deriving DecidableEq, Inhabited

def Cause.message : Cause → String
  | .badStart => "invalid start byte"
  | .badContinuation => "invalid continuation byte"
  | .unfinished => "unexpected end of data"

/-- A sequence that is no character: its first byte, where it begins, and how many bytes it has. -/
structure Fault where
  byte : Nat
  position : Nat
  length : Nat
  cause : Cause
  deriving DecidableEq, Inhabited

def Fault.message (fault : Fault) : String :=
  let subject :=
    if fault.length == 1 then
      "byte 0x" ++ String.ofList (hexDigits 2 fault.byte) ++ s!" in position {fault.position}"
    else s!"bytes in position {fault.position}-{fault.position + fault.length - 1}"
  s!"'utf-8' codec can't decode {subject}: {fault.cause.message}"

/-- How many bytes a sequence with that first byte has. -/
def sequenceLength? (byte : Nat) : Option Nat :=
  if byte < 0x80 then some 1
  else if 0xC2 ≤ byte && byte < 0xE0 then some 2
  else if 0xE0 ≤ byte && byte < 0xF0 then some 3
  else if 0xF0 ≤ byte && byte < 0xF5 then some 4
  else none

/-- Whether a byte may be the second of a sequence with that first byte. -/
def maySecond (first second : Nat) : Bool :=
  let low := if first == 0xE0 then 0xA0 else if first == 0xF0 then 0x90 else 0x80
  let high := if first == 0xED then 0x9F else if first == 0xF4 then 0x8F else 0xBF
  low ≤ second && second ≤ high

def mayFollow (byte : Nat) : Bool := 0x80 ≤ byte && byte ≤ 0xBF

/-- The number of bytes behind the first that fit into the sequence. -/
def fitting (first : Nat) : List Nat → Nat
  | [] => 0
  | second :: rest =>
    if maySecond first second then 1 + (rest.takeWhile mayFollow).length else 0

def combine (first count : Nat) (rest : List Nat) : Nat :=
  let lead := if count == 1 then first else first % Nat.pow 2 (7 - count)
  rest.foldl (fun n byte => 64 * n + byte % 64) lead

/-- The character at the front of bytes and the number of bytes behind its first. -/
def decodeOne (position first : Nat) (rest : List Nat) : Except Fault (Char × Nat) :=
  match sequenceLength? first with
  | none => .error ⟨first, position, 1, .badStart⟩
  | some count =>
    let wanted := rest.take (count - 1)
    let good := fitting first wanted
    if good == count - 1 then .ok (Char.ofNat (combine first count wanted), count - 1)
    else if good < wanted.length then .error ⟨first, position, good + 1, .badContinuation⟩
    else .error ⟨first, position, good + 1, .unfinished⟩

/-- Decodes bytes that begin at a position; `skip` of them belong to a character already read. -/
def decodeFrom (position : Nat) (skip : Nat) : List Nat → Except Fault (List Char)
  | [] => .ok []
  | first :: rest =>
    if 0 < skip then decodeFrom (position + 1) (skip - 1) rest
    else do
      let (c, more) ← decodeOne position first rest
      return c :: (← decodeFrom (position + 1) more rest)

def decode (bytes : List Nat) : Except Fault (List Char) := decodeFrom 0 0 bytes

end PageHarvest.Text.Utf8
