import AcmeClient.Jws.Key

/-!
# Signed messages

A message to the server is signed together with a header, which binds it to a nonce, to the URL
it is sent to and to the key: the public key itself as long as the account has no URL, that URL
afterwards. A message without payload only asks to see a resource.
-/

namespace AcmeClient

/-- A key that signs messages, and the URL of its account once that is known. -/
structure Signer where
  key : SigningKey
  account : Option String := none
  deriving DecidableEq, Repr

/-- How a message names the key that it is signed with. -/
inductive KeyReference where
  | embedded (key : Jwk)
  | account (url : String)
  deriving DecidableEq, Repr

/-- How a signer's messages name its key. -/
def Signer.reference (s : Signer) : KeyReference :=
  match s.account with
  | some url => .account url
  | none => .embedded (.ofKey s.key)

namespace Jws

/-- What is signed besides the payload. -/
structure Header where
  nonce : String
  url : String
  reference : KeyReference
  deriving DecidableEq, Repr

/-- The member that names the key. -/
def referenceMember : KeyReference → String × Bytes
  | .embedded key => ("jwk", key.write)
  | .account url => ("kid", Json.writeText url)

/-- A header in JSON text. -/
def Header.write (h : Header) : Bytes :=
  Json.writeObject [("alg", Json.writeText "ES256"), ("nonce", Json.writeText h.nonce),
    ("url", Json.writeText h.url), referenceMember h.reference]

end Jws

/-- A signed message. -/
structure Jws where
  header : Jws.Header
  payload : Option Bytes
  signature : Bytes
  deriving DecidableEq, Repr

namespace Jws

/-- The text of a header. -/
def protectedText (h : Header) : String := Base64.encodeUrl h.write

/-- The text of a payload, empty if there is none. -/
def payloadText : Option Bytes → String
  | none => ""
  | some b => Base64.encodeUrl b

/-- The octets that are signed. -/
def signedOctets (h : Header) (payload : Option Bytes) : Bytes :=
  Utf8.encode (protectedText h ++ "." ++ payloadText payload)

/-- The message with a header and payload, signed with a key. -/
def sign (key : SigningKey) (header : Header) (payload : Option Bytes) : Jws :=
  { header, payload, signature := (key.sign (signedOctets header payload)).octets }

/-- A message as it is sent. -/
def write (m : Jws) : Bytes :=
  Json.writeObject [("protected", Json.writeText (protectedText m.header)),
    ("payload", Json.writeText (payloadText m.payload)),
    ("signature", Json.writeText (Base64.encodeUrl m.signature))]

end Jws

/-- The message to a URL with a nonce, signed by a signer. -/
def Signer.sign (s : Signer) (url nonce : String) (payload : Option Bytes) : Jws :=
  Jws.sign s.key { nonce, url, reference := s.reference } payload

end AcmeClient
