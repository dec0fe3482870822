import AcmeClient.Resource.Account
import AcmeClient.Resource.Authorization
import AcmeClient.Resource.Order
import AcmeClient.Session.Signed

/-!
# Tracked resources

A client follows a resource of the server by asking for it again: it knows whose it is, where it
is, and what the server last said about it. An answer that cannot be read or does not fit leaves
everything as it was.
-/

namespace AcmeClient

/-- The key of an account and the URL of the account. -/
structure Credentials where
  key : SigningKey
  location : String
  deriving DecidableEq, Repr

/-- Messages of an account name its URL. -/
def Credentials.signer (c : Credentials) : Signer := { key := c.key, account := some c.location }

/-- A resource of the server: whose it is, where it is, and what the server last said about it. -/
structure Tracked (α : Type) where
  owner : Credentials
  location : String
  content : α
  deriving DecidableEq, Repr

/-- What a server can say about a kind of resource: how an answer is read, and what it makes of
the resource at a location with some content. -/
class Described (α : Type) where
  codec : Json.Codec α
  accept (location : String) (content answer : α) : Except Error α

/-- An answer about an account stands for itself. -/
instance : Described Resource.Account := ⟨Resource.Account.codec, fun _ _ answer => .ok answer⟩

/-- An order keeps its identifiers. -/
instance : Described Resource.Order :=
  ⟨Resource.Order.codec, fun _ order answer => order.refreshed answer⟩

/-- An answer about an authorization stands for itself. -/
instance : Described Resource.Authorization :=
  ⟨Resource.Authorization.codec, fun _ _ answer => .ok answer⟩

/-- A challenge that names no URL keeps its own. -/
instance : Described Resource.Challenge :=
  ⟨Resource.Challenge.codec, fun location _ answer => .ok (answer.locatedAt location)⟩

/-- An account of the server. -/
abbrev Account := Tracked Resource.Account

/-- An order for a certificate. -/
abbrev Order := Tracked Resource.Order

/-- The proof that an account controls an identifier. -/
abbrev Authorization := Tracked Resource.Authorization

/-- One way to prove control over an identifier. -/
abbrev Challenge := Tracked Resource.Challenge

/-- Something done in a session with one tracked resource. -/
abbrev Tracking (α : Type) := Attempt (Session × Tracked α)

namespace Tracked

/-- Something done in the session alone. -/
def inSession (a : Action β) : Tracking α β := .within (·.1) (fun s st => (s, st.2)) a

/-- Takes over what a response says about the resource. -/
def adopt [Described α] (response : Http.Response) : Tracking α Unit := do
  let answer ← response.decode (Described.codec (α := α))
  let (s, t) ← get
  let content ← Described.accept t.location t.content answer
  set (s, { t with content })

/-- Asks the server for the resource. The value is the wait that the server asks for. -/
def update [Described α] : Tracking α (Option Duration) := do
  let (_, t) ← get
  let response ← inSession (Session.send t.location none t.owner.signer)
  adopt response
  return response.retryAfter? (← get).1.clock

/-- Sends a message whose answer is about the resource. -/
def submit [Described α] (url : String) (payload : Bytes) : Tracking α Unit := do
  let (_, t) ← get
  let response ← inSession (Session.send url (some payload) t.owner.signer)
  adopt response

/-- The resource of an account at a location. -/
def load [Described α] (owner : Credentials) (location : String) : Action (Tracked α) := do
  let response ← Session.send location none owner.signer
  return { owner, location, content := ← response.decode Described.codec }

end Tracked

end AcmeClient
