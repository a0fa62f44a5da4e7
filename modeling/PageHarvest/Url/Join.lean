import PageHarvest.Url.Basic

/-! # Resolving addresses

A link is resolved against the address of the page that it stands on: what the link leaves out is
taken from the page, and the steps `.` and `..` of its path are carried out.
-/

namespace PageHarvest.Url

open Text

/-- Whether a segment is a step rather than a name. -/
def isStep (segment : List Char) : Bool := segment == ['.'] || segment == ['.', '.']

/-- Carries the steps out on the segments before them, the last one first. -/
def climb (done : List (List Char)) : List (List Char) → List (List Char)
  | [] => done.reverse
  | segment :: rest =>
    if segment == ['.', '.'] then climb done.tail rest
    else if segment == ['.'] then climb done rest
    else climb (segment :: done) rest

/-- The segments of a path without steps; a step at the end leaves an open end. -/
def resolveSteps (segments : List (List Char)) : List (List Char) :=
  climb [] segments ++ if segments.getLast?.any isStep then [[]] else []

/-- Drops the empty segments between the first and the last one. -/
def dropEmpty (segments : List (List Char)) : List (List Char) :=
  match segments with
  | [] => []
  | [only] => [only]
  | first :: rest => first :: rest.dropLast.filter (!·.isEmpty) ++ rest.getLast?.toList

/-- The segments of a path that leads on from another. -/
def followedBy (base path : List Char) : List (List Char) :=
  if path.head? == some '/' then splitAt ['/'] path
  else
    let parts := splitAt ['/'] base
    let folder := if parts.getLast? == some [] then parts else parts.dropLast
    dropEmpty (folder ++ splitAt ['/'] path)

def joinPaths (base path : List Char) : List Char :=
  match ['/'].intercalate (resolveSteps (followedBy base path)) with
  | [] => ['/']
  | joined => joined

/-- Resolves an address without an authority of its own. -/
def resolve (base link : Url) : Url :=
  if link.path.isEmpty && link.parameters.isEmpty then
    { link with
      path := base.path
      parameters := base.parameters
      query := if link.query.isEmpty then base.query else link.query }
  else { link with path := joinPaths base.path link.path }

def join (base link : List Char) : Except Fault (List Char) := do
  if base.isEmpty then return link
  if link.isEmpty then return base
  let page ← parse base
  let url ← parseWith page.scheme link
  if url.scheme != page.scheme || !isOneOf relativeSchemes url.scheme then return link
  if !isOneOf authoritySchemes url.scheme then return (resolve page url).toText
  if !url.authority.isEmpty then return url.toText
  return (resolve page { url with authority := page.authority }).toText

end PageHarvest.Url
