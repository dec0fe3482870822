import AcmeClient.Http.StatusCode
import AcmeClient.Jws.Basic
import AcmeClient.Settings

/-!
# Requests and replies

A request goes to a web address and may carry a signed message. A reply has a status code,
headers and a body; the header values are octets. Names of headers are compared without regard to
case and only the first header of a name counts.
-/

namespace AcmeClient.Http

/-- What a request asks for. -/
inductive Method where
  | head
  | get
  | post
  deriving DecidableEq, Repr

/-- The name of a method. -/
def Method.name : Method → String
  | head => "HEAD"
  | get => "GET"
  | post => "POST"

/-- What tells whether a resource has changed since it was fetched. -/
structure Validators where
  etag : Option String := none
  lastModified : Option String := none
  deriving DecidableEq, Repr

/-- A request as the server sees it. -/
structure Request where
  method : Method
  url : Url
  userAgent : String
  acceptsGzip : Bool := false
  credentials : Option ProxyCredentials := none
  validators : Validators := {}
  message : Option Jws := none
  deriving DecidableEq, Repr

namespace Request

/-- The media type of signed messages. -/
def messageType : String := "application/jose+json"

/-- The headers of a request. -/
def headers (r : Request) : List (String × String) :=
  [("user-agent", r.userAgent)] ++
    (if r.acceptsGzip then [("accept-encoding", "gzip")] else []) ++
    (r.credentials.map fun c => ("proxy-authorization",
      "Basic " ++ .ofList (Base64.encodePadded (Utf8.encode (c.username ++ ":" ++ c.password))))).toList ++
    (r.validators.etag.map ("if-none-match", ·)).toList ++
    (r.validators.lastModified.map ("if-modified-since", ·)).toList ++
    (r.message.map fun _ => ("content-type", messageType)).toList

end Request

/-- A reply of a server. -/
structure Reply where
  status : StatusCode
  headers : List (String × Bytes) := []
  body : Bytes := []
  /-- How the reader of JSON words its refusal of a body that is no problem document. -/
  refusal : String := ".."
  deriving DecidableEq, Repr

namespace Reply

/-- Whether an octet surrounds header values without belonging to them. -/
def isPadding (b : UInt8) : Bool := b == 0x20 || b == 0x09

/-- A header value without its padding. -/
def unpadded (b : Bytes) : Bytes :=
  ((b.dropWhile isPadding).reverse.dropWhile isPadding).reverse

/-- Whether an octet may stand in a header value that is read as text. -/
def isVisible (b : UInt8) : Bool := (0x20 ≤ b && b < 0x7F) || b == 0x09

/-- The header of a name, if its value is text. -/
def header? (r : Reply) (name : String) : Option String := do
  let (_, value) ← r.headers.find? fun (n, _) => n.map Char.toLower = name.map Char.toLower
  let value := unpadded value
  if value.all isVisible then some (Utf8.decodeLossy value) else none

/-- The nonce that comes with a reply, if it is well-formed. -/
def nonce? (r : Reply) : Option String := (r.header? "replay-nonce").filter Base64.isUrlText

/-- What a client receives: answers to some requests have no body. -/
def receivedFor (r : Reply) (method : Method) : Reply :=
  if method = .head ∨ r.status.isBodiless then { r with body := [] } else r

end Reply

end AcmeClient.Http
