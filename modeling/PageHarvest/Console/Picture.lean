import PageHarvest.Console.PictureTable
import PageHarvest.Console.Width
import PageHarvest.Text.Blank
import PageHarvest.Text.Lowercase
import PageHarvest.Text.Search

/-! # Pictures

A picture may be written as its name between colons. A name may end in a wish for the text form
or the picture form. Whatever is no name of a picture stays as it is, with both of its colons.
-/

namespace PageHarvest.Console

open Text

def picture? (name : List Char) : Option (List Char) :=
  pictureLines.findSome? fun line => (splitAt [' '] line.toList).findSome? fun entry =>
    match cut ['='] entry with
    | some (key, text) => if key = name then some text else none
    | none => none

/-- The forms that may be wished for, and their selectors. -/
def pictureForms : List (String × Char) := [("-emoji", pictureSelector), ("-text", '\ufe0e')]

/-- What stands between two colons, as a picture. -/
def pictureOf? (inside : List Char) : Option (List Char) :=
  let wish := pictureForms.find? fun form => form.1.toList.isSuffixOf inside
  match wish with
  | some (ending, selector) =>
    (picture? (lower (inside.take (inside.length - ending.length)))).map (· ++ [selector])
  | none => picture? (lower inside)

/-- The text up to the next colon, and what follows that colon, if no blank comes before it. -/
def toColon : List Char → Option (List Char × List Char)
  | [] => none
  | c :: rest =>
    if c = ':' then some ([], rest)
    else if isBlank c then none
    else (toColon rest).map fun (inside, after) => (c :: inside, after)

theorem length_of_toColon {s inside after : List Char} (h : toColon s = some (inside, after)) :
    after.length < s.length := by
  induction s generalizing inside with
  | nil => simp [toColon] at h
  | cons c rest ih =>
    unfold toColon at h
    split at h
    · simp only [Option.some.injEq, Prod.mk.injEq] at h
      simp [← h.2]
    · split at h
      · exact absurd h (by simp)
      · obtain ⟨⟨i, a⟩, found, same⟩ := Option.map_eq_some_iff.1 h
        simp only [Prod.mk.injEq] at same
        obtain ⟨_, rfl⟩ := same
        have := ih found
        simp only [List.length_cons]
        omega

def withPictures : List Char → List Char
  | [] => []
  | c :: rest =>
    if c = ':' then
      match _h : toColon rest with
      | some (inside, after) =>
        (pictureOf? inside).getD (':' :: inside ++ [':']) ++ withPictures after
      | none => c :: withPictures rest
    else c :: withPictures rest
termination_by s => s.length
decreasing_by
  all_goals simp_wf
  have := length_of_toColon _h
  omega

end PageHarvest.Console
