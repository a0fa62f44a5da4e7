import PageHarvest.Selector.Basic

/-! # Pseudo-classes without arguments

Each pseudo-class stands for a list of alternatives. Those that speak of a reader in front of a
screen, of playing media or of a visited history hold of no element. Left out is `:dir`, which asks
for the direction in which texts are written: here it is unknown.
-/

namespace PageHarvest.Selector.Pseudo

def named (names : List String) : Test := .any (names.map fun name => [.name name])

def has (name : String) : Test := .attr name none

def hasValue (name value : String) (ignoreCase : Bool := false) : Test :=
  .attr name (some ⟨.equal, value.toList, ignoreCase⟩)

def hasType (value : String) : Test := hasValue "type" value true

/-- The test does not hold. -/
def lacks (test : Test) : Test := .none [[test]]

def either (tests : List Test) : Test := .any (tests.map fun test => [test])

/-- An input that is not hidden. -/
def visibleInput : List Test := [.name "input", lacks (hasType "hidden")]

def link : Alternatives := [[named ["a", "area"], has "href"]]

/-- Boxes, buttons and options that are ticked in the source. -/
def checked : Alternatives :=
  [[.name "input", either [hasType "checkbox", hasType "radio"], has "checked"],
    [.name "option", has "selected"]]

/-- What is ticked or pressed unless a reader does otherwise. -/
def default : Alternatives :=
  checked ++ [[named ["button", "input"], hasType "submit", .related .ancestor [.name "form"],
    .submits]]

/-- Boxes, buttons and bars of which nobody can say how far they are. -/
def indeterminate : Alternatives :=
  let radio := [.name "input", hasType "radio", lacks (has "checked")]
  let unnamed := hasValue "name" ""
  [[.name "input", hasType "checkbox", has "indeterminate"],
    radio ++ [either [lacks (has "name"), unnamed]],
    [.name "progress", lacks (has "value")],
    radio ++ [has "name", lacks unnamed, .unchosen]]

/-- Inputs with a limit whose value lies outside the limits, or within. -/
def ranged (outside : Bool) : Alternatives :=
  let types := ["date", "month", "week", "time", "datetime-local", "number", "range"]
  [[.name "input", either (types.map hasType), either [has "min", has "max"], .range outside]]

def control : Alternatives :=
  [visibleInput, [named ["button", "select", "textarea", "fieldset"]]]

/-- Form elements that cannot be used, by themselves or because of a group around them. -/
def disabled : Alternatives :=
  let legend := Test.none [[.name "legend", .position ⟨0, 1, false⟩ true false []]]
  let group := Test.related .parent [.name "fieldset", has "disabled"]
  [[.any (control ++ [[named ["optgroup", "option"]]]), has "disabled"],
    [.name "option", .related .parent [.name "optgroup", has "disabled"]],
    [.any control, group],
    [.any control, .related .ancestor [legend, group]]]

/-- Form elements that can be used. -/
def enabled : Alternatives :=
  [[.any (control ++ [[named ["optgroup", "option"]]]), .none disabled]]

/-- Fields that take a value. -/
def field : Test := named ["input", "select", "textarea"]

/-- Inputs of one of the types, or of no type. -/
def inputOf (types : List String) : List Test :=
  [.name "input",
    .any ([lacks (has "type")] :: [hasType ""] :: types.map fun type => [hasType type])]

/-- Inputs and areas whose hint is seen because they are empty. -/
def placeholderShown : Alternatives :=
  let hint := [has "placeholder", lacks (hasValue "placeholder" "")]
  [inputOf ["text", "search", "url", "tel", "email", "password", "number"] ++ hint ++
      [either [lacks (has "value"), hasValue "value" ""]],
    .name "textarea" :: .hollow :: hint]

/-- Elements whose content the reader can change. -/
def readWrite : Alternatives :=
  [[.any [[.name "textarea"], inputOf ["date", "datetime-local", "email", "month", "number",
      "password", "search", "tel", "text", "time", "url", "week"]],
      .none ([has "readonly"] :: disabled)],
    [either [hasValue "contenteditable" "", hasValue "contenteditable" "true" true]]]

/-- The place among the siblings, counted from one. -/
def place (sameName fromEnd : Bool) : Test := .position ⟨0, 1, false⟩ sameName fromEnd []

/-- What a pseudo-class without arguments stands for. -/
def ofName? (name : String) : Option Alternatives :=
  match name with
  | ":root" => some [[.root]]
  | ":scope" => some [[.scope]]
  | ":empty" => some [[.hollow]]
  | ":first-child" => some [[place false false]]
  | ":last-child" => some [[place false true]]
  | ":only-child" => some [[place false false, place false true]]
  | ":first-of-type" => some [[place true false]]
  | ":last-of-type" => some [[place true true]]
  | ":only-of-type" => some [[place true false, place true true]]
  | ":link" | ":any-link" => some link
  | ":checked" => some checked
  | ":default" => some default
  | ":indeterminate" => some indeterminate
  | ":in-range" => some (ranged false)
  | ":out-of-range" => some (ranged true)
  | ":defined" => some [[.plain]]
  | ":disabled" => some disabled
  | ":enabled" => some enabled
  | ":required" => some [[field, has "required"]]
  | ":optional" => some [[field, lacks (has "required")]]
  | ":placeholder-shown" => some placeholderShown
  | ":read-write" => some readWrite
  | ":read-only" => some [[.none readWrite]]
  | _ => none

/-- Pseudo-classes of which no element of a document at rest is a member. -/
def ofNoElement : List String := [
  ":active", ":autofill", ":current", ":focus", ":focus-visible", ":focus-within", ":future",
  ":host", ":hover", ":local-link", ":past", ":paused", ":playing", ":target", ":target-within",
  ":user-invalid", ":visited"]

/-- The same with a list of selectors behind it. -/
def ofNoElementWithList : List String := [":current", ":host", ":host-context"]

def withArguments : List String := [
  ":contains", ":-soup-contains", ":-soup-contains-own", ":has", ":is", ":matches", ":not",
  ":where", ":lang", ":nth-child", ":nth-last-child", ":nth-last-of-type", ":nth-of-type"]

/-- Whether there is such a pseudo-class, with or without arguments. -/
def isKnown (name : String) : Bool :=
  (ofName? name).isSome || (ofNoElement ++ ofNoElementWithList ++ withArguments).contains name

end PageHarvest.Selector.Pseudo
