import AcmeClient.Url.Host

/-!
# URLs

A URL has a scheme, possibly an authority with credentials, host and port, then a path, and
possibly a query and a fragment. All components are kept as they are written. A URL without
authority may have a path that is plain text instead of segments.
-/

namespace AcmeClient

namespace Url

/-- The path of a URL. -/
inductive Path where
  | segments (parts : List (List Char))
  | text (chars : List Char)
  deriving DecidableEq, Repr

/-- The text of a path: a slash stands before each segment. -/
def Path.chars : Path → List Char
  | .segments parts => parts.flatMap ('/' :: ·)
  | .text chars => chars

end Url

/-- A URL in its components. -/
structure Url where
  scheme : String
  hasAuthority : Bool
  username : List Char := []
  password : List Char := []
  host : Option Url.Host := none
  port : Option UInt16 := none
  path : Url.Path := .segments []
  query : Option (List Char) := none
  fragment : Option (List Char) := none
  deriving DecidableEq, Repr

namespace Url

/-- The schemes of web addresses and the port that each implies. -/
def impliedPort : String → Option UInt16
  | "http" => some 80
  | "ws" => some 80
  | "https" => some 443
  | "wss" => some 443
  | "ftp" => some 21
  | _ => none

/-- Whether URLs of a scheme are web addresses, which always have a host. -/
def isWebScheme (scheme : String) : Bool := (impliedPort scheme).isSome

/-- Whether a backslash separates segments as a slash does. -/
def hasBackslashes (scheme : String) : Bool := isWebScheme scheme || scheme == "file"

/-- The credentials in front of the host. -/
def credentialChars (u : Url) : List Char :=
  if u.username = [] ∧ u.password = [] then []
  else u.username ++ (if u.password = [] then [] else ':' :: u.password) ++ ['@']

/-- The text of the host, empty if there is none. -/
def hostText (u : Url) : String := (u.host.map Host.toText).getD ""

/-- The port as written after the host. -/
def portChars (u : Url) : List Char :=
  match u.port with
  | none => []
  | some p => ':' :: Nat.toDigits 10 p.toNat

/-- What stands between scheme and path. A path that could be taken for an authority is set
apart. -/
def authorityChars (u : Url) : List Char :=
  if u.hasAuthority then
    ['/', '/'] ++ u.credentialChars ++ u.hostText.toList ++ u.portChars
  else match u.path with
    | .segments ([] :: _ :: _) => ['/', '.']
    | _ => []

/-- A component with its mark, if present. -/
def marked (mark : Char) : Option (List Char) → List Char
  | none => []
  | some chars => mark :: chars

/-- The text of a URL. -/
def toChars (u : Url) : List Char :=
  u.scheme.toList ++ ':' :: u.authorityChars ++ u.path.chars ++ marked '?' u.query ++
    marked '#' u.fragment

/-- The text of a URL. -/
def toText (u : Url) : String := .ofList u.toChars

/-- The text of the path. -/
def pathText (u : Url) : String := .ofList u.path.chars

/-- The URL as a server sees it: without credentials and fragment. -/
def onWire (u : Url) : Url := { u with username := [], password := [], fragment := none }

end Url

end AcmeClient
