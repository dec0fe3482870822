import AcmeClient.Url.Basic

/-!
# Reading URLs

A text is cut into scheme, authority, path, query and fragment at the first marks of each, and
every component is checked or encoded by its own rule. A text without scheme is read relative to
a base.
-/

namespace AcmeClient.Url

/-- The text without surrounding blanks and controls, tabs and line ends. -/
def cleaned (cs : List Char) : List Char :=
  let isOuter (c : Char) := c.toNat ≤ 0x20
  (Text.dropEndWhile isOuter (cs.dropWhile isOuter)).filter fun c =>
    c ≠ '\t' ∧ c ≠ '\n' ∧ c ≠ '\r'

/-- Whether a character may stand in a scheme after its first letter. -/
def isSchemeChar (c : Char) : Bool := c.isAlphanum || c == '+' || c == '-' || c == '.'

/-- The scheme in lowercase and what follows its colon. -/
def scheme? (cs : List Char) : Option (String × List Char) :=
  match cs with
  | [] => none
  | c :: _ =>
    if c.isAlpha then
      match cs.dropWhile isSchemeChar with
      | ':' :: rest => some (.ofList ((cs.takeWhile isSchemeChar).map Char.toLower), rest)
      | _ => none
    else none

/-- The text up to the first of some marks, and the rest. -/
def cutAt (marks : List Char) (cs : List Char) : List Char × List Char :=
  cs.span fun c => !marks.contains c

/-- What a slash is in a scheme. -/
def slashes (scheme : String) : List Char := if hasBackslashes scheme then ['/', '\\'] else ['/']

/-- The segments of a text. -/
def splitSegments (isSlash : Char → Bool) : List Char → List (List Char)
  | [] => [[]]
  | c :: cs =>
    if isSlash c then [] :: splitSegments isSlash cs
    else match splitSegments isSlash cs with
      | [] => [[c]]
      | s :: rest => (c :: s) :: rest

/-- Whether a segment stands for the current directory. -/
def isSingleDot (s : List Char) : Bool :=
  [['.'], ['%', '2', 'e']].contains (s.map Char.toLower)

/-- Whether a segment stands for the directory above. -/
def isDoubleDot (s : List Char) : Bool :=
  [['.', '.'], ['.', '%', '2', 'e'], ['%', '2', 'e', '.'], ['%', '2', 'e', '%', '2', 'e']].contains
    (s.map Char.toLower)

/-- Whether a segment is a drive letter. -/
def isDrive : List Char → Bool
  | [c, d] => c.isAlpha && (d == ':' || d == '|')
  | _ => false

/-- Removes the last of the segments, given in reverse; a drive stays. -/
def parent (isFile : Bool) : List (List Char) → List (List Char)
  | [] => []
  | [s] => if isFile && isDrive s then [s] else []
  | _ :: rest => rest

/-- Appends segments to those in `done`, given in reverse, following dots. -/
def walk (isFile : Bool) : List (List Char) → List (List Char) → List (List Char)
  | done, [] => done.reverse
  | done, s :: rest =>
    let done := if isDoubleDot s then parent isFile done else done
    if isDoubleDot s || isSingleDot s then
      if rest = [] then ([] :: done).reverse else walk isFile done rest
    else
      let s := if isFile && done.isEmpty && isDrive s then [s.headD 'c', ':'] else s
      walk isFile (s :: done) rest

/-- The path after the segments of a base, whose last one is replaced. -/
def pathFrom (scheme : String) (done : List (List Char)) (cs : List Char) : Path :=
  let isFile := scheme == "file"
  let segments :=
    (splitSegments (slashes scheme).contains cs).map (percentEncode pathSet)
  let path := walk isFile done.reverse segments
  .segments <|
    if isFile then
      match path.dropWhile (· = []) with
      | [] => [[]]
      | rest => rest
    else path

/-- The path that follows an authority. -/
def pathAfterAuthority (scheme : String) (cs : List Char) : Path :=
  match cs with
  | [] => if hasBackslashes scheme then .segments [[]] else .segments []
  | c :: rest => if (slashes scheme).contains c then pathFrom scheme [] rest else pathFrom scheme [] cs

/-- Query and fragment of a text that starts with the mark of one of them or is empty. -/
def withQueryAndFragment (u : Url) (cs : List Char) : Url :=
  let set := if isWebScheme u.scheme || u.scheme == "file" then webQuerySet else querySet
  let (query, rest) := cutAt ['#'] cs
  { u with
    query := match query with
      | '?' :: q => some (percentEncode set q)
      | _ => none
    fragment := match rest with
      | '#' :: f => some (percentEncode fragmentSet f)
      | _ => none }

/-- The authority's text split at its last `@`. -/
def splitUser (authority : List Char) : Option (List Char) × List Char :=
  let host := (authority.reverse.takeWhile (· ≠ '@')).reverse
  if authority.contains '@' then (some (authority.take (authority.length - host.length - 1)), host)
  else (none, authority)

/-- The text of a host before its port; a colon between brackets belongs to the host. -/
def hostLength : Bool → List Char → Nat
  | _, [] => 0
  | inside, c :: cs =>
    if c = ':' ∧ !inside then 0
    else if c = '[' then 1 + hostLength true cs
    else if c = ']' then 1 + hostLength false cs
    else 1 + hostLength inside cs

/-- The port written after a host; the implied port and an empty one are left out. -/
def port? (scheme : String) (cs : List Char) : Except Fault (Option UInt16) :=
  if cs.all (·.isDigit) then
    let value := Host.numberValue 10 (cs.map fun c => c.toNat - 48)
    if 65535 < value then .error .badPort
    else if cs = [] ∨ impliedPort scheme = some (UInt16.ofNat value) then .ok none
    else .ok (some (UInt16.ofNat value))
  else .error .badPort

/-- Reads what follows the two slashes of an authority. -/
def afterSlashes (scheme : String) (cs : List Char) : Except Fault Url := do
  let isWeb := isWebScheme scheme
  let (authority, rest) := cutAt (slashes scheme ++ ['?', '#']) cs
  let (user, hostAndPort) := splitUser authority
  let userText := user.getD []
  let (name, password) := cutAt [':'] userText
  let password := password.drop 1
  let hasUser := !(name.isEmpty && password.isEmpty)
  if user = some [] ∧ hostAndPort = [] ∧ rest ≠ [] then .error .emptyHost
  let size := hostLength false hostAndPort
  let hostPart := hostAndPort.take size
  let portPart := hostAndPort.drop size
  if isWeb ∧ hostPart = [] then .error .emptyHost
  let host ← if isWeb then Host.ofChars hostPart else Host.ofOtherText hostPart
  let host := if host = .domain "" then none else some host
  if host.isNone ∧ portPart ≠ [] then .error .emptyHost
  -- A backslash ends the port of any scheme.
  let (digits, extra) := cutAt ['\\'] (portPart.drop 1)
  let port ← port? scheme digits
  if host.isNone ∧ hasUser then .error .emptyHost
  let (path, rest) := cutAt ['?', '#'] (extra ++ rest)
  let u : Url :=
    { scheme, hasAuthority := true, username := percentEncode userSet name,
      password := percentEncode userSet password, host, port,
      path := pathAfterAuthority scheme path }
  .ok (withQueryAndFragment u rest)

/-- A file with a path and nothing else. -/
def fileUrl (host : Option Host) (done : List (List Char)) (cs : List Char) : Url :=
  let (path, rest) := cutAt ['?', '#'] cs
  withQueryAndFragment { scheme := "file", hasAuthority := true, host, path := pathFrom "file" done path }
    rest

/-- Whether a text starts with a drive letter that is a whole segment. -/
def startsWithDrive (cs : List Char) : Bool :=
  isDrive (cutAt ['/', '\\', '?', '#'] cs).1

/-- Reads the host of a file. -/
def fileWithHost (cs : List Char) : Except Fault Url := do
  let (name, rest) := cutAt ['/', '\\', '?', '#'] cs
  if isDrive name then .ok (fileUrl none [] cs)
  else
    let host ← if name = [] then .ok none else some <$> Host.ofChars name
    let host := if host = some (.domain "localhost") then none else host
    let host := if startsWithDrive (rest.drop 1) then none else host
    let rest := match rest with
      | '/' :: r => r
      | '\\' :: r => r
      | r => r
    .ok (fileUrl host [] rest)

/-- The segments of a base. -/
def baseSegments (base : Url) : List (List Char) :=
  match base.path with
  | .segments parts => parts
  | .text _ => []

/-- Replaces what follows the path of a base. -/
def withBasePath (base : Url) (cs : List Char) : Url :=
  let query := if cs.head? = some '?' then none else base.query
  let u := withQueryAndFragment { base with query := none, fragment := none } cs
  { u with query := u.query.orElse fun _ => query }

/-- Reads what follows the scheme of a file. -/
def fileFrom (base : Option Url) (cs : List Char) : Except Fault Url :=
  let isSlash (c : Char) := c = '/' ∨ c = '\\'
  match cs with
  | c :: d :: rest =>
    if isSlash c ∧ isSlash d then fileWithHost rest
    else if isSlash c then .ok (rooted (d :: rest))
    else .ok (relative cs)
  | [c] => if isSlash c then .ok (rooted []) else .ok (relative cs)
  | [] => .ok (relative [])
where
  rooted (cs : List Char) : Url :=
    match base with
    | some b =>
      if startsWithDrive cs then fileUrl none [] cs
      else
        match (baseSegments b).head? with
        | some s => if isDrive s then fileUrl none [s] cs else fileUrl b.host [] cs
        | none => fileUrl b.host [] cs
    | none => fileUrl none [] cs
  relative (cs : List Char) : Url :=
    match base with
    | none => fileUrl none [] cs
    | some b =>
      match cs with
      | [] => { b with fragment := none }
      | c :: _ =>
        if c = '?' ∨ c = '#' then withBasePath b cs
        else if startsWithDrive cs then fileUrl none [] cs
        else fileUrl b.host (parent true (baseSegments b).reverse).reverse cs

/-- Reads a text without scheme relative to a base. -/
def relativeTo (base : Url) (cs : List Char) : Except Fault Url :=
  match cs with
  | [] => .ok { base with fragment := none }
  | c :: rest =>
    if c = '?' ∨ c = '#' then .ok (withBasePath base cs)
    else
      let replaced (done : List (List Char)) (cs : List Char) : Url :=
        let (path, rest) := cutAt ['?', '#'] cs
        withQueryAndFragment
          { base with path := pathFrom base.scheme done path, query := none, fragment := none } rest
      if c = '/' ∨ c = '\\' then
        match rest with
        | d :: after =>
          if c = '/' ∧ d = '/' then afterSlashes base.scheme after
          else if d = '/' ∨ d = '\\' then
            afterSlashes base.scheme (after.dropWhile fun c => c = '/' ∨ c = '\\')
          else .ok (replaced [] rest)
        | [] => .ok (replaced [] [])
      else .ok (replaced (baseSegments base).dropLast cs)

/-- Reads what follows a scheme. -/
def withScheme (base : Option Url) (scheme : String) (cs : List Char) : Except Fault Url :=
  if scheme = "file" then fileFrom (base.filter (·.scheme = "file")) cs
  else if isWebScheme scheme then
    let rest := cs.dropWhile fun c => c = '/' ∨ c = '\\'
    match base.filter (·.scheme = scheme) with
    | some b => if cs.length < rest.length + 2 then relativeTo b cs else afterSlashes scheme rest
    | none => afterSlashes scheme rest
  else
    match cs with
    | '/' :: '/' :: rest => afterSlashes scheme rest
    | _ =>
      let (path, rest) := cutAt ['?', '#'] cs
      let path := match path with
        | '/' :: segments => pathFrom scheme [] segments
        | chars => .text (percentEncode [] chars)
      .ok (withQueryAndFragment { scheme, hasAuthority := false, path } rest)

/-- Reads a text, possibly relative to a base. -/
def parseWith (base : Option Url) (s : String) : Except Fault Url :=
  let cs := cleaned s.toList
  match scheme? cs with
  | some (scheme, rest) => withScheme base scheme rest
  | none =>
    match base with
    | none => .error .noBase
    | some b =>
      match b.path with
      | .text _ => if cs.head? = some '#' then .ok (withBasePath b cs) else .error .pathlessBase
      | .segments _ => if b.scheme = "file" then fileFrom (some b) cs else relativeTo b cs

/-- Reads an absolute URL. -/
def parse (s : String) : Except Fault Url := parseWith none s

/-- Reads a URL relative to a base. -/
def join (base : Url) (s : String) : Except Fault Url := parseWith (some base) s

end AcmeClient.Url
