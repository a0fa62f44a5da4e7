import PageHarvest.Text.CaseTable

/-! # Lower-casing

The full lower case of a text: each capital becomes its small letter, the dotted capital I becomes
two characters, and a capital sigma that ends a word becomes the final small sigma.
-/

namespace PageHarvest.Text

/-- The small letter of a capital; every other character is itself. -/
def lowerChar (c : Char) : Char :=
  if c.toNat < 128 then c.toLower
  else match caseRuns.find? (·.covers c.toNat) with
    | some run => Char.ofNat (c.toNat + run.shift).toNat
    | none => c

/-- Small letters that count as the same when case is ignored, beside those that share a capital. -/
def twinLetters : List (List Nat) := [
  [105, 305], [115, 383], [181, 956], [837, 953, 8126], [912, 8147], [944, 8163], [946, 976],
  [949, 1013], [952, 977], [954, 1008], [960, 982], [961, 1009], [962, 963], [966, 981],
  [1074, 7296], [1076, 7297], [1086, 7298], [1089, 7299], [1090, 7300, 7301], [1098, 7302],
  [1123, 7303], [7304, 42571], [7777, 7835], [64261, 64262]]

/-- The one character that stands for all that differ only in case. -/
def foldChar (c : Char) : Char :=
  let small := lowerChar c
  match twinLetters.find? (·.contains small.toNat) with
  | some (first :: _) => Char.ofNat first
  | _ => small

/-- Whether the nearest character that counts is a letter with a case. -/
def nextIsCased (s : List Char) : Bool :=
  match s.dropWhile caseIgnorable.contains with
  | [] => false
  | c :: _ => cased.contains c

/-- Lower case of a text whose preceding characters, last first, are `seen`. -/
def lowerAfter (seen : List Char) : List Char → List Char
  | [] => []
  | c :: rest =>
    let small :=
      if c.toNat == 0x130 then ['i', Char.ofNat 0x307]
      else if c.toNat == 0x3A3 then
        if nextIsCased seen && !nextIsCased rest then [Char.ofNat 0x3C2] else [Char.ofNat 0x3C3]
      else [lowerChar c]
    small ++ lowerAfter (c :: seen) rest

def lower (s : List Char) : List Char :=
  lowerAfter [] s

end PageHarvest.Text
