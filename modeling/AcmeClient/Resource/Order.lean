import AcmeClient.Encoding.Base64
import AcmeClient.Identifier.Equality
import AcmeClient.Status

/-!
# Order objects

An order asks for a certificate for some identifiers. A server may list the identifiers in
another order or spelling; the client's own list is kept as long as both name the same.
-/

namespace AcmeClient.Resource

/-- The automatic renewal that an order asks for. -/
structure Renewal where
  startDate : Option String := none
  endDate : Option String := none
  lifetime : Option UInt64 := none
  lifetimeAdjust : Option UInt64 := none
  allowCertificateGet : Option Bool := none
  deriving DecidableEq, Repr

/-- An order as a server describes it. -/
structure Order where
  status : Status := .unknown
  expires : Option String := none
  identifiers : List Identifier := []
  notBefore : Option String := none
  notAfter : Option String := none
  error : Option Problem := none
  authorizations : List String := []
  finalize : String := ""
  certificate : Option String := none
  starCertificate : Option String := none
  renewal : Option Renewal := none
  profile : Option String := none
  replaces : Option String := none
  deriving DecidableEq, Repr

/-- What a client sends to create an order. -/
structure NewOrder where
  identifiers : List Identifier
  notBefore : Option String := none
  notAfter : Option String := none
  renewal : Option Renewal := none
  replaces : Option String := none
  profile : Option String := none
  deriving DecidableEq, Repr

/-- What a client sends to finalize an order: the request for a certificate. -/
structure Finalization where
  request : String
  deriving DecidableEq, Repr

namespace Renewal

/-- The members of a renewal. -/
def record : Json.Record Renewal where
  blank := {}
  members := [
    .optional "start-date" .text (·.startDate) fun x r => { r with startDate := x },
    .optional "end-date" .text (·.endDate) fun x r => { r with endDate := x },
    .optional "lifetime" .uint64 (·.lifetime) fun x r => { r with lifetime := x },
    .optional "lifetime-adjust" .uint64 (·.lifetimeAdjust) fun x r => { r with lifetimeAdjust := x },
    .optional "allow-certificate-get" .bool (·.allowCertificateGet)
      fun x r => { r with allowCertificateGet := x }]

/-- Renewals in JSON text. -/
def codec : Json.Codec Renewal := record.codec

end Renewal

namespace Order

/-- The members of an order. -/
def record : Json.Record Order where
  blank := {}
  members := [
    .defaulted "status" Status.codec (·.status) fun x o => { o with status := x },
    .optional "expires" .text (·.expires) fun x o => { o with expires := x },
    .required "identifiers" (.list Identifier.codec) (·.identifiers)
      fun x o => { o with identifiers := x },
    .optional "notBefore" .text (·.notBefore) fun x o => { o with notBefore := x },
    .optional "notAfter" .text (·.notAfter) fun x o => { o with notAfter := x },
    .optional "error" Problem.codec (·.error) fun x o => { o with error := x },
    .defaulted "authorizations" (.list .text) (·.authorizations)
      fun x o => { o with authorizations := x },
    .defaulted "finalize" .text (·.finalize) fun x o => { o with finalize := x },
    .optional "certificate" .text (·.certificate) fun x o => { o with certificate := x },
    .optional "star-certificate" .text (·.starCertificate)
      fun x o => { o with starCertificate := x },
    .optional "auto-renewal" Renewal.codec (·.renewal) fun x o => { o with renewal := x },
    .optional "profile" .text (·.profile) fun x o => { o with profile := x },
    .optional "replaces" .text (·.replaces) fun x o => { o with replaces := x }]

/-- Orders in JSON text. -/
def codec : Json.Codec Order := record.codec

/-- The domains of an order. -/
def domains (o : Order) : List String := (o.identifiers.filter (·.isDns)).map (·.value)

/-- The URL of the certificate, or of the one that is renewed. -/
def certificateUrl? (o : Order) : Option String := o.certificate.orElse fun _ => o.starCertificate

/-- Whether a server's list has as many identifiers as one's own and no other ones. -/
def agrees (had got : List Identifier) : Bool :=
  got.length == had.length && got.all (·.isIn had)

/-- The order as described by a server, with the identifiers in one's own order and spelling. -/
def refreshed (o : Order) (answer : Order) : Except Error Order :=
  if o.identifiers = [] then .ok answer
  else if agrees o.identifiers answer.identifiers then
    .ok { answer with identifiers := o.identifiers }
  else .error (.protocolViolation (.identifierMismatch o.identifiers answer.identifiers))

end Order

namespace NewOrder

/-- The members of a request for an order. -/
def record : Json.Record NewOrder where
  blank := ⟨[], none, none, none, none, none⟩
  members := [
    .required "identifiers" (.list Identifier.codec) (·.identifiers)
      fun x o => { o with identifiers := x },
    .optional "notBefore" .text (·.notBefore) fun x o => { o with notBefore := x },
    .optional "notAfter" .text (·.notAfter) fun x o => { o with notAfter := x },
    .optional "auto-renewal" Renewal.codec (·.renewal) fun x o => { o with renewal := x },
    .optional "replaces" .text (·.replaces) fun x o => { o with replaces := x },
    .optional "profile" .text (·.profile) fun x o => { o with profile := x }]

/-- Requests for orders in JSON text. -/
def codec : Json.Codec NewOrder := record.codec

end NewOrder

namespace Finalization

/-- The members of a finalization. -/
def record : Json.Record Finalization where
  blank := ⟨""⟩
  members := [.required "csr" .text (·.request) fun x f => { f with request := x }]

/-- Finalizations in JSON text. -/
def codec : Json.Codec Finalization := record.codec

/-- The finalization with a request for a certificate. -/
def ofRequest (der : Bytes) : Finalization := ⟨Base64.encodeUrl der⟩

end Finalization

end AcmeClient.Resource
