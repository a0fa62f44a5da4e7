/-! # Finding and cutting at a separator

All functions work from the left and never overlap matches. `cut` is the one primitive; splitting
and replacing are repeated cuts.
-/

namespace PageHarvest.Text

/-- The text before and after the first occurrence of `sep`. -/
def cut (sep : List Char) : List Char → Option (List Char × List Char)
  | [] => if sep.isEmpty then some ([], []) else none
  | c :: rest =>
    if sep.isPrefixOf (c :: rest) then some ([], (c :: rest).drop sep.length)
    else (cut sep rest).map fun (before, after) => (c :: before, after)

/-- Cutting loses no character. -/
theorem cut_length {sep s before after : List Char} (h : cut sep s = some (before, after)) :
    before.length + sep.length + after.length = s.length := by
  induction s generalizing before after with
  | nil =>
    simp only [cut] at h
    split at h
    · simp_all
    · simp at h
  | cons c rest ih =>
    simp only [cut] at h
    split at h
    · rename_i isPre
      have le := (List.isPrefixOf_iff_prefix.mp isPre).length_le
      simp only [Option.some.injEq, Prod.mk.injEq] at h
      obtain ⟨rfl, rfl⟩ := h
      simp only [List.length_nil, List.length_drop] at *
      omega
    · simp only [Option.map_eq_some_iff, Prod.mk.injEq] at h
      obtain ⟨⟨b, a⟩, found, rfl, rfl⟩ := h
      have := ih found
      simp only [List.length_cons]
      omega

/-- The pieces of `s` between the occurrences of `sep`; an empty separator never matches. -/
def splitAt (sep : List Char) (s : List Char) : List (List Char) :=
  if _empty : sep = [] then [s]
  else match _found : cut sep s with
    | none => [s]
    | some (before, after) => before :: splitAt sep after
termination_by s.length
decreasing_by
  have := cut_length _found
  have : 0 < sep.length := List.length_pos_iff.mpr _empty
  omega

/-- Every occurrence of `old` becomes `new`. -/
def substitute (old new s : List Char) : List Char :=
  new.intercalate (splitAt old s)

/-- Whether `part` occurs in `s`. -/
def occursIn (part s : List Char) : Bool :=
  (cut part s).isSome

/-- The text after the last occurrence of `c`, and before it. -/
def cutLast (c : Char) (s : List Char) : Option (List Char × List Char) :=
  (cut [c] s.reverse).map fun (after, before) => (before.reverse, after.reverse)

/-- `substitute` on strings. -/
def replace (old new s : String) : String :=
  String.ofList (substitute old.toList new.toList s.toList)

/-- `splitAt` on strings. -/
def split (sep s : String) : List String :=
  (splitAt sep.toList s.toList).map String.ofList

/-- `occursIn` on strings. -/
def contains (s part : String) : Bool :=
  occursIn part.toList s.toList

end PageHarvest.Text
