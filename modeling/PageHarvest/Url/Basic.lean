import PageHarvest.Text.Search

/-! # Addresses

An address is cut into scheme, authority, path, parameters, query and fragment, and put together
again. Cutting refuses an authority with an unpaired square bracket, and one whose characters would
become separators when they are written in their plain forms.
-/

namespace PageHarvest

open Text

/-- The parts of an address. An empty part counts as absent. -/
structure Url where
  scheme : List Char := []
  authority : List Char := []
  path : List Char := []
  parameters : List Char := []
  query : List Char := []
  fragment : List Char := []
  deriving DecidableEq, Inhabited

namespace Url

/-- Why a text is no address. -/
inductive Fault where
  | bracketUnpaired
  | separatorHidden (authority : List Char)
  deriving DecidableEq, Inhabited

def Fault.message : Fault → String
  | .bracketUnpaired => "Invalid IPv6 URL"
  | .separatorHidden authority =>
    "netloc '" ++ String.ofList authority ++
      "' contains invalid characters under NFKC normalization"

/-- Schemes whose relative addresses can be resolved. -/
def relativeSchemes : List String := [
  "", "ftp", "http", "gopher", "nntp", "imap", "wais", "file", "https", "shttp", "mms", "prospero",
  "rtsp", "rtspu", "sftp", "svn", "svn+ssh", "ws", "wss"]

/-- Schemes whose addresses have an authority. -/
def authoritySchemes : List String := [
  "", "ftp", "http", "gopher", "nntp", "telnet", "imap", "wais", "file", "mms", "https", "shttp",
  "snews", "prospero", "rtsp", "rtspu", "rsync", "svn", "svn+ssh", "sftp", "nfs", "git",
  "git+ssh", "ws", "wss"]

/-- Schemes whose last path segment may have parameters. -/
def parameterSchemes : List String := [
  "", "ftp", "hdl", "prospero", "http", "imap", "https", "shttp", "rtsp", "rtspu", "sip", "sips",
  "mms", "sftp", "tel"]

def isOneOf (schemes : List String) (scheme : List Char) : Bool :=
  schemes.contains (String.ofList scheme)

/-- Characters that are dropped wherever they stand. -/
def isIgnored (c : Char) : Bool := c == '\t' || c == '\r' || c == '\n'

def isLetter (c : Char) : Bool := ('a' ≤ c && c ≤ 'z') || ('A' ≤ c && c ≤ 'Z')

def inScheme (c : Char) : Bool :=
  isLetter c || ('0' ≤ c && c ≤ '9') || c == '+' || c == '-' || c == '.'

def scheme? (s : List Char) : Option (List Char × List Char) :=
  match cut [':'] s with
  | some (c :: before, after) =>
    if isLetter c && before.all inScheme then some ((c :: before).map Char.toLower, after) else none
  | _ => none

/-- Characters whose plain forms hold a separator. -/
def hidesSeparator (c : Char) : Bool :=
  [8263, 8264, 8265, 8448, 8449, 8453, 8454, 10868, 65043, 65046, 65109, 65110, 65119, 65131,
    65283, 65295, 65306, 65311, 65312].contains c.toNat

def checkAuthority (authority : List Char) : Except Fault Unit := do
  if authority.contains '[' != authority.contains ']' then throw .bracketUnpaired

def endsAuthority (c : Char) : Bool := c == '/' || c == '?' || c == '#'

/-- The text before and after the first separator; all of it comes before if there is none. -/
def cutAt (separator : Char) (s : List Char) : List Char × List Char :=
  (cut [separator] s).getD (s, [])

def cutParameters (path : List Char) : List Char × List Char :=
  match cutLast '/' path with
  | none => cutAt ';' path
  | some (front, segment) =>
    let (kept, parameters) := cutAt ';' segment
    (front ++ '/' :: kept, parameters)

/-- Cuts an address into its parts. One without a scheme takes the one given. -/
def parseWith (default : List Char) (text : List Char) : Except Fault Url := do
  let text := text.filter (!isIgnored ·)
  let (scheme, rest) := (scheme? text).getD (default, text)
  let (authority, rest) := match rest with
    | '/' :: '/' :: rest => rest.span (!endsAuthority ·)
    | _ => ([], rest)
  checkAuthority authority
  let (rest, fragment) := cutAt '#' rest
  let (path, query) := cutAt '?' rest
  if authority.any hidesSeparator then throw (.separatorHidden authority)
  let (path, parameters) :=
    if isOneOf parameterSchemes scheme then cutParameters path else (path, [])
  return { scheme, authority, path, parameters, query, fragment }

def parse (text : List Char) : Except Fault Url := parseWith [] text

/-- A part with its mark in front, if it is there. -/
def marked (mark : Char) (part : List Char) : List Char :=
  if part.isEmpty then [] else mark :: part

def toText (url : Url) : List Char :=
  let path := url.path ++ marked ';' url.parameters
  let hasAuthority := !url.authority.isEmpty ||
    (!url.scheme.isEmpty && isOneOf authoritySchemes url.scheme && !"//".toList.isPrefixOf path)
  let located :=
    if hasAuthority then
      let rooted := if !path.isEmpty && path.head? != some '/' then '/' :: path else path
      "//".toList ++ url.authority ++ rooted
    else path
  (if url.scheme.isEmpty then [] else url.scheme ++ [':']) ++ located ++
    marked '?' url.query ++ marked '#' url.fragment

end Url

end PageHarvest
