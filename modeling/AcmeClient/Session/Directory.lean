import AcmeClient.Session.Basic

/-!
# The directory of a session

The directory is fetched when it is first needed. Fetching it again asks the server whether it
has changed since, by the validators of the response it came in; an unchanged directory is kept.
The validators are remembered apart from the directory, before it is put in place.
-/

namespace AcmeClient.Session

/-- The validators for a request for the directory: the remembered ones, if there is a directory at
hand. -/
def validators (s : Session) : Http.Validators := if s.directory.isNone then {} else s.remembered

/-- Asks for the directory; there is no response if it has not changed. -/
def askDirectory (c : Connector) (url : String) (validators : Http.Validators) :
    Action (Option Http.Response) := do
  let response ← ask c .get url validators
  if response.reply.status = .notModified then return none
  return some (← response.success)

/-- Remembers validators for the next request for the directory. -/
def remember (validators : Http.Validators) : Action Unit :=
  modify ({ · with remembered := validators })

/-- Puts a directory in place of the one at hand. -/
def adopt (content : Resource.Directory) (validators : Http.Validators) : Action CachedDirectory := do
  let s ← get
  let directory : CachedDirectory :=
    { content, validators, number := (s.directory.map (·.number + 1)).getD 0 }
  set { s with directory := some directory }
  return directory

/-- Fetches the directory unless it has not changed. -/
def refreshDirectory : Action CachedDirectory := do
  let s ← get
  let url ← s.provider.resolve s.uri
  let c ← connect
  match ← askDirectory c url.toText s.validators with
  | some response => do
    let content ← response.decode Resource.Directory.codec
    remember response.validators
    adopt content response.validators
  | none =>
    match s.directory with
    | some directory => return directory
    | none => throw (.protocolViolation (.unchangedBeforeFetch s.uri.toText))

/-- The directory, fetched if there is none. -/
def currentDirectory : Action CachedDirectory := do
  match (← get).directory with
  | some directory => return directory
  | none => refreshDirectory

/-- What the server offers. -/
def capabilities : Action Resource.Capabilities := do
  return (← currentDirectory).content.capabilities

/-- The URL of an endpoint, if the server has it. -/
def endpoint? (e : Endpoint) : Action (Option String) := do
  return (← currentDirectory).content.url? e

/-- The URL of an endpoint, which the server must have. -/
def endpoint (e : Endpoint) : Action String := do
  match ← endpoint? e with
  | some url => return url
  | none => throw (.unsupported (.endpoint e))

end AcmeClient.Session
