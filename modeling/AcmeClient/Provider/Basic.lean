import AcmeClient.Error
import AcmeClient.Url.Parser

/-!
# Providers

A provider knows where the directory of a server is. Some servers have aliases, URLs with the
scheme `acme` and the name of the server as host; any other server is given by the URL of its
directory.
-/

namespace AcmeClient

/-- What is known about a server. The test server Pebble has its own root certificate, in the
first usable file of some candidates. -/
inductive Provider where
  | letsEncrypt
  | sslCom
  | pebble (trustAnchors : List String)
  | generic
  deriving DecidableEq, Repr

namespace Provider

/-- The scheme of aliases. -/
def aliasScheme : String := "acme"

/-- Whether a URL is an alias of a server. -/
def isAlias (uri : Url) (server : String) : Bool :=
  uri.scheme == aliasScheme && uri.host == some (.domain server)

/-- Whether a provider serves a URL. -/
def accepts (p : Provider) (uri : Url) : Bool :=
  match p with
  | letsEncrypt => isAlias uri "letsencrypt.org"
  | sslCom => isAlias uri "ssl.com"
  | pebble _ => isAlias uri "pebble"
  | generic => uri.scheme == "http" || uri.scheme == "https"

/-- A URL that is part of the configuration. -/
def parseUrl (s : String) : Except Error Url :=
  match Url.parse s with
  | .ok u => .ok u
  | .error fault => .error (.invalidConfiguration (.badUrl s fault))

/-- The path of an alias without slashes at its end. -/
def aliasPath (uri : Url) : String :=
  .ofList (Text.dropEndWhile (· = '/') uri.path.chars)

/-- The directories of Let's Encrypt. -/
def letsEncryptDirectory (uri : Url) : Except Error Url :=
  match aliasPath uri with
  | "" => parseUrl "https://acme-v02.api.letsencrypt.org/directory"
  | "/v02" => parseUrl "https://acme-v02.api.letsencrypt.org/directory"
  | "/staging" => parseUrl "https://acme-staging-v02.api.letsencrypt.org/directory"
  | "/v02/staging" => parseUrl "https://acme-staging-v02.api.letsencrypt.org/directory"
  | path => .error (.invalidConfiguration (.unknownDirectory "Let's Encrypt" path))

/-- The directories of SSL.com. -/
def sslComDirectory (uri : Url) : Except Error Url :=
  match aliasPath uri with
  | "" => parseUrl "https://acme.ssl.com/sslcom-dv-ecc"
  | "/ecc" => parseUrl "https://acme.ssl.com/sslcom-dv-ecc"
  | "/rsa" => parseUrl "https://acme.ssl.com/sslcom-dv-rsa"
  | "/staging" => parseUrl "https://acme-try.ssl.com/sslcom-dv-ecc"
  | "/staging/ecc" => parseUrl "https://acme-try.ssl.com/sslcom-dv-ecc"
  | "/staging/rsa" => parseUrl "https://acme-try.ssl.com/sslcom-dv-rsa"
  | path => .error (.invalidConfiguration (.unknownDirectory "SSL.com" path))

/-- The port that Pebble listens on unless told otherwise. -/
def pebblePort : Nat := 14000

/-- The host and port that a Pebble alias gives as its path, `/host[:port][/]`. -/
def pebbleHost? (path : List Char) : Option (List Char × Nat) := do
  let rest ← Text.after? ['/'] path
  let rest := (Text.beforeLast? '/' rest).getD rest
  let host := rest.takeWhile (· ≠ ':')
  if host = [] ∨ host.contains '/' then none
  match rest.dropWhile (· ≠ ':') with
  | [] => some (host, pebblePort)
  | _ :: digits =>
    let port := Url.Host.numberValue 10 (digits.map fun c => c.toNat - 48)
    if digits = [] ∨ !digits.all (·.isDigit) ∨ 65535 < port then none else some (host, port)

/-- The URL of a Pebble directory. -/
def pebbleUrl (host : List Char) (port : Nat) : Except Error Url :=
  parseUrl (.ofList ("https://".toList ++ host ++ ':' :: Nat.toDigits 10 port ++ "/dir".toList))

/-- The directory of Pebble. -/
def pebbleDirectory (uri : Url) : Except Error Url :=
  let path := uri.path.chars
  if path = [] ∨ path = ['/'] then
    pebbleUrl "localhost".toList ((uri.port.map (·.toNat)).getD pebblePort)
  else match pebbleHost? path with
    | some (host, port) => pebbleUrl host port
    | none => .error (.invalidConfiguration (.badPebbleHost uri.pathText))

/-- The URL of the directory that a URL stands for. -/
def resolve (p : Provider) (uri : Url) : Except Error Url :=
  match p with
  | letsEncrypt => letsEncryptDirectory uri
  | sslCom => sslComDirectory uri
  | pebble _ => pebbleDirectory uri
  | generic => .ok uri

/-- A provider as messages show it. -/
def shown : Provider → String
  | letsEncrypt => "LetsEncryptProvider"
  | sslCom => "SslComProvider"
  | pebble anchors => "PebbleProvider \x7b trust_anchors: " ++ Text.quotedList anchors ++ " \x7d"
  | generic => "GenericProvider"

/-- The candidates for Pebble's root certificate; the environment may name one to try first. -/
def pebbleCandidates (fromEnvironment : Option String) : List String :=
  fromEnvironment.toList ++ ["pebble.minica.pem", "/etc/pebble/pebble.minica.pem"]

/-- The providers in the order in which they are asked. -/
def builtIn : List Provider := [letsEncrypt, sslCom, pebble (pebbleCandidates none), generic]

/-- The first provider that serves a URL. -/
def find (providers : List Provider) (uri : Url) : Except Error Provider :=
  match providers.find? (·.accepts uri) with
  | some p => .ok p
  | none => .error (.invalidConfiguration (.noProvider uri.toText))

/-- The URL of a server. -/
def parseServerUri (s : String) : Except Error Url :=
  match Url.parse s with
  | .ok u => .ok u
  | .error fault => .error (.invalidConfiguration (.badServerUri s fault))

/-- The server and provider that a text stands for, with the first provider of some that serves
it. A URL whose directory cannot be found is refused. -/
def select (providers : List Provider) (s : String) : Except Error (Url × Provider) := do
  let uri ← parseServerUri s
  let p ← find providers uri
  let _ ← p.resolve uri
  return (uri, p)

/-- The server that a text stands for, served by a given provider. -/
def selectOnly (p : Provider) (s : String) : Except Error Url := do
  let uri ← parseServerUri s
  if !p.accepts uri then
    throw (.invalidConfiguration (.refusedUri p.shown uri.toText))
  let _ ← p.resolve uri
  return uri

end Provider

end AcmeClient
