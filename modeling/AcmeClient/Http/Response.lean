import AcmeClient.Http.Message
import AcmeClient.Time.RetryAfter

/-!
# Responses

A response is a reply together with the URL that was asked. It may carry a nonce for the next
message, the URL of a resource just created, and the wait that the server asks for. A response
that is no success becomes a problem: the one that its body describes, or a general one.
-/

namespace AcmeClient.Http

/-- A reply and the URL that was asked. -/
structure Response where
  url : String
  reply : Reply
  deriving DecidableEq, Repr

namespace Response

/-- The header of a name, if its value is text. -/
def header? (r : Response) (name : String) : Option String := r.reply.header? name

/-- The media type of the body without parameters. -/
def mediaType? (r : Response) : Option String :=
  (r.header? "content-type").map fun value =>
    .ofList (Text.trimChars (value.toList.takeWhile (· ≠ ';')))

/-- The body as text. -/
def text (r : Response) : String := Utf8.decodeLossy r.reply.body

/-- The value that the body stands for. -/
def decode (r : Response) (c : Json.Codec α) : Except Error α :=
  (c.decode r.reply.body).mapError .json

/-- The URL of the resource that the response is about, relative to the URL that was asked. -/
def location? (r : Response) : Option String :=
  (r.header? "location").map fun location =>
    match (Url.parse r.url).bind (·.join location) with
    | .ok url => url.toText
    | .error _ => location

/-- The URL of the resource that the response is about, which must be there. -/
def location (r : Response) : Except Error String :=
  match r.location? with
  | some location => .ok location
  | none => .error (.protocolViolation (.noLocation r.url))

/-- The nonce for the next message, if it is well-formed. -/
def nonce? (r : Response) : Option String := r.reply.nonce?

/-- The wait that the server asks for, at a time in nanoseconds from the start of 1970. -/
def retryAfter? (r : Response) (now : Int) : Option Duration :=
  (r.header? "retry-after").bind (RetryAfter.parse? now)

/-- What tells whether the resource has changed since. -/
def validators (r : Response) : Validators :=
  { etag := r.header? "etag", lastModified := r.header? "last-modified" }

/-- The media type of problem documents. -/
def problemType : String := "application/problem+json"

/-- The problem that a response without success stands for. -/
def problem (r : Response) : Problem :=
  let status := some r.reply.status.code
  if r.mediaType? = some problemType then
    match Problem.codec.decode r.reply.body with
    | .ok p => { p with status := p.status.orElse fun _ => status }
    | .error _ =>
      { type := "problemJsonFail", status,
        detail := some <| "Failed to deserialize application/problem+json (" ++ r.reply.refusal ++
          ") body: " ++ r.text }
  else
    { type := "httpReqError", status,
      detail := some s!"{r.reply.status.toText} body: {r.text}" }

/-- The response, if it is a success. -/
def success (r : Response) : Except Error Response :=
  if r.reply.status.isSuccess then .ok r else .error (.server r.url r.problem)

end Response

end AcmeClient.Http
