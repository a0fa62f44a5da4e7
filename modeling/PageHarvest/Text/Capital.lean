/-! # Capital letters

The capitals of a text as far as they are ASCII letters; other letters stay as they are. Some
letters have more than one letter as their capital form.
-/

namespace PageHarvest.Text

/-- Letters outside of ASCII whose capital form is made of ASCII letters. -/
def asciiCapitals : List (Char × String) := [
  ('ß', "SS"), ('ı', "I"), ('ſ', "S"), ('ﬀ', "FF"), ('ﬁ', "FI"), ('ﬂ', "FL"), ('ﬃ', "FFI"),
  ('ﬄ', "FFL"), ('ﬅ', "ST"), ('ﬆ', "ST")]

def capital (c : Char) : List Char :=
  match asciiCapitals.lookup c with
  | some letters => letters.toList
  | none => [c.toUpper]

def capitals (s : String) : String := String.ofList (s.toList.flatMap capital)

end PageHarvest.Text
