import AcmeClient.Problem
import AcmeClient.Status

/-!
# Challenge objects

A challenge is one way to prove control over an identifier, as a server describes it.
-/

namespace AcmeClient.Resource

/-- A challenge as a server describes it. -/
structure Challenge where
  type : String
  url : String
  status : Status := .unknown
  validated : Option String := none
  error : Option Problem := none
  token : Option String := none
  issuerDomainNames : Option (List String) := none
  deriving DecidableEq, Repr

namespace Challenge

/-- The members of a challenge. -/
def record : Json.Record Challenge where
  blank := ⟨"", "", .unknown, none, none, none, none⟩
  members := [
    .required "type" .text (·.type) fun x c => { c with type := x },
    .required "url" .text (·.url) fun x c => { c with url := x },
    .defaulted "status" Status.codec (·.status) fun x c => { c with status := x },
    .optional "validated" .text (·.validated) fun x c => { c with validated := x },
    .optional "error" Problem.codec (·.error) fun x c => { c with error := x },
    .optional "token" .text (·.token) fun x c => { c with token := x },
    .optional "issuer-domain-names" (.list .text) (·.issuerDomainNames)
      fun x c => { c with issuerDomainNames := x }]

/-- Challenges in JSON text. -/
def codec : Json.Codec Challenge := record.codec

/-- The challenge with the URL it was found at, if it names none. -/
def locatedAt (c : Challenge) (location : String) : Challenge :=
  if c.url = "" then { c with url := location } else c

end Challenge

end AcmeClient.Resource
