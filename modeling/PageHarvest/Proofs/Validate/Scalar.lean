import PageHarvest.Proofs.Json.RoundTrip
import PageHarvest.Proofs.Validate.Checked
import PageHarvest.Validate.Scalar

/-! # Whole numbers that pass

A whole number may come as a number, a text, a truth value or a float. From data whose whole numbers
can be read as text it always is one that can be read as text itself: a text has no more digits, and
a float is no larger than a machine word.
-/

namespace PageHarvest.Validate

open Checked Json

/-- A whole number that is read from a text has no more digits than are read. -/
private theorem short_of_readWhole {s : List Char} {n : Int} (read : readWhole s = .ok n) :
    n.natAbs < 10 ^ maxDigits := by
  unfold readWhole at read
  split at read
  rename_i negative body signed
  split at read
  · rename_i digits found
    dsimp only at read
    split at read
    · cases read
    · rename_i wellFormed
      split at read
      · cases read
      · rename_i fits
        cases read
        simp only [Bool.or_eq_true, Bool.not_eq_true', not_or, Bool.not_eq_false] at wellFormed
        have few : (dropUnderscores (dropPoint digits)).length ≤ maxDigits := Nat.le_of_not_lt fits
        have short := Nat.lt_of_lt_of_le (digitsValue_lt (List.all_eq_true.mp wellFormed.2))
          (Nat.pow_le_pow_right (by decide) few)
        split
        · rwa [Int.natAbs_neg]
        · exact short
  · cases read

/-- A whole number that is read from data with short whole numbers is short, in whatever form it
comes. -/
theorem short_of_integer {json : Json} {n : Int} (brief : Brief json)
    (passes : integer json = .sound n) : n.natAbs < 10 ^ maxDigits := by
  cases json with
  | null => cases passes
  | bool b =>
    have small : n.natAbs < 10 ^ 1 := by
      cases b <;> cases passes <;> decide
    exact Nat.lt_of_lt_of_le small (Nat.pow_le_pow_right (by decide) (by decide))
  | int m =>
    cases passes
    obtain _ | _ | short := brief
    exact short
  | float x =>
    simp only [integer] at passes
    split at passes
    · cases passes
    · split at passes
      · split at passes
        · rename_i bound
          cases passes
          have small : Nat.pow 2 63 < 10 ^ 19 := by decide
          exact Nat.lt_of_lt_of_le (Nat.lt_of_le_of_lt bound small)
            (Nat.pow_le_pow_right (by decide) (by decide))
        · cases passes
      · cases passes
  | string s =>
    simp only [integer] at passes
    split at passes
    · rename_i read
      cases passes
      exact short_of_readWhole read
    · cases passes
  | torn glyphs => cases passes
  | array items => cases passes
  | object members => cases passes
  | tornObject members => cases passes

theorem short_of_natural {json : Json} {n : Nat} (brief : Brief json)
    (passes : natural json = .sound n) : n < 10 ^ maxDigits := by
  obtain ⟨m, bounded, rfl⟩ := Checked.map_eq_sound_iff.mp passes
  obtain ⟨k, whole, bounded⟩ := andThen_eq_sound_iff.mp bounded
  split at bounded
  · cases bounded
    have short := short_of_integer brief whole
    omega
  · cases bounded

end PageHarvest.Validate
