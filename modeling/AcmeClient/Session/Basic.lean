import AcmeClient.Attempt
import AcmeClient.Http.Wire
import AcmeClient.Nonce
import AcmeClient.Provider.Transport
import AcmeClient.Resource.Directory
import AcmeClient.X509.Certificate

/-!
# Sessions

A session talks to one server. It remembers the directory, the validators for the next request for
the directory, the nonce for the next message, and, if it may, a connector that serves all requests.
Its clock counts nanoseconds from the start of 1970; sleeping moves it.
-/

namespace AcmeClient

/-- What sends requests: connectors are numbered in the order in which a session makes them. -/
structure Connector where
  number : Nat
  settings : NetworkSettings
  roots : TrustedRoots
  deriving DecidableEq, Repr

namespace Connector

/-- How requests name the client. -/
def userAgent : String := "acme-engine/0.1.0 Rust"

/-- A request sent through a connector. -/
def request (c : Connector) (method : Http.Method) (url : Url) (validators : Http.Validators)
    (message : Option Jws) : Http.Request :=
  { method, url, userAgent, acceptsGzip := c.settings.compression, validators, message,
    credentials := c.settings.proxy.bind fun _ => c.settings.credentials }

end Connector

/-- A directory with the validators of the response it came in, and how many directories the
session had fetched before. -/
structure CachedDirectory where
  content : Resource.Directory
  validators : Http.Validators
  number : Nat
  deriving DecidableEq, Repr

/-- What is known in talking to one server. -/
structure Session where
  /-- The server, as it was asked for. -/
  uri : Url
  /-- What knows where the server's directory is. -/
  provider : Provider
  settings : NetworkSettings := {}
  /-- The files among which a provider may look for root certificates. -/
  files : Files := fun _ => none
  /-- What the implementation of TLS accepts as a root certificate. -/
  acceptsRoot : Bytes → Bool := fun der => (X509.Certificate.decode? der).isSome
  wire : Http.Wire := {}
  /-- The time in nanoseconds from the start of 1970. -/
  clock : Nat := 0
  nonces : NonceStore := {}
  /-- The directory, once it has been fetched. -/
  directory : Option CachedDirectory := none
  /-- The validators that came with the last directory that could be read. -/
  remembered : Http.Validators := {}
  /-- How many connectors have been made. -/
  connectors : Nat := 0
  /-- The connector for all requests, if they may share one and it has been made. -/
  shared : Option Connector := none

/-- Something done in a session. -/
abbrev Action := Attempt Session

namespace Session

/-- A session with the server that a text stands for. -/
def ofUri (providers : List Provider) (uri : String) (settings : NetworkSettings) :
    Except Error Session := do
  let (uri, provider) ← Provider.select providers uri
  return { uri, provider, settings }

/-- The nonce for the next message. -/
def nonce (s : Session) : Option String := s.nonces.nonce

/-- The session with another nonce. -/
def withNonce (s : Session) (nonce : Option String) : Session :=
  { s with nonces := s.nonces.set nonce }

/-- Lets time pass. -/
def sleep (s : Session) (d : Duration) : Session := { s with clock := s.clock + d.nanoseconds }

/-- Makes a connector. -/
def newConnector : Action Connector := do
  let s ← get
  let roots ← s.provider.transport s.files s.acceptsRoot s.settings
  set { s with connectors := s.connectors + 1 }
  return { number := s.connectors, settings := s.settings, roots }

/-- A connector for the next operation: a new one, or one for all operations if they may share. -/
def connect : Action Connector := do
  let s ← get
  if !s.settings.reuse then newConnector
  else match s.shared with
    | some c => return c
    | none =>
      let c ← newConnector
      modify fun s => { s with shared := some c }
      return c

/-- Sends a request and waits for the response. Only web addresses can be asked, and a reply may
be lost. -/
def ask (c : Connector) (method : Http.Method) (url : String) (validators : Http.Validators := {})
    (message : Option Jws := none) : Action Http.Response := do
  match Http.address? url with
  | none => throw .network
  | some address =>
    let s ← get
    let (reply, wire) := s.wire.send (c.request method address validators message)
    set { s with wire }
    match reply with
    | none => throw .network
    | some reply => return { url, reply }

/-- Sends an unsigned request for what is at a URL. -/
def fetch (url : String) : Action Http.Response := do
  let c ← connect
  let response ← ask c .get url
  response.success

end Session

end AcmeClient
