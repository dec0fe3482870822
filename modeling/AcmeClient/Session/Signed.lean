import AcmeClient.Session.Directory

/-!
# Signed requests

Every signed message uses up the nonce of the session and leaves the one that comes with the
response. Without a nonce, one is fetched first. A message whose nonce the server refuses is
signed and sent once more.
-/

namespace AcmeClient.Session

/-- Asks for a nonce. -/
def fetchNonce (c : Connector) (url : String) : Action String := do
  let response ← ask c .head url
  let response ← response.success
  match response.nonce? with
  | some nonce => return nonce
  | none => throw (.protocolViolation (.noNonce url))

/-- Replaces the nonce by one just fetched. -/
def resetNonce : Action Unit := do
  let c ← connect
  let url ← endpoint .newNonce
  let nonce ← fetchNonce c url
  modify (·.withNonce (some nonce))

/-- Takes the nonce out of the session, or fetches one. -/
def takeNonce (c : Connector) (url : String) : Action String := do
  let s ← get
  let (nonce, nonces) := s.nonces.take
  set { s with nonces }
  match nonce with
  | some nonce => return nonce
  | none => fetchNonce c url

/-- Sends a message once. The argument `nonceUrl` is where nonces come from. -/
def sendOnce (c : Connector) (nonceUrl url : String) (payload : Option Bytes) (signer : Signer) :
    Action Http.Response := do
  let nonce ← takeNonce c nonceUrl
  let response ← ask c .post url {} (some (signer.sign url nonce payload))
  modify (·.withNonce response.nonce?)
  return response

/-- Sends a message; if its nonce is refused, once more with another one. -/
def sendSigned (c : Connector) (url : String) (payload : Option Bytes) (signer : Signer) :
    Action Http.Response := do
  let nonceUrl ← endpoint .newNonce
  let response ← sendOnce c nonceUrl url payload signer
  match response.success with
  | .ok response => return response
  | .error e =>
    if e.isBadNonce then
      let response ← sendOnce c nonceUrl url payload signer
      response.success
    else throw e

/-- Sends a message through a connector of its own. -/
def send (url : String) (payload : Option Bytes) (signer : Signer) : Action Http.Response := do
  let c ← connect
  sendSigned c url payload signer

end AcmeClient.Session
