import AcmeClient.Order.Request
import AcmeClient.Tracked.Waiting
import AcmeClient.X509.Request

/-!
# Orders

An order is created, becomes ready once all its identifiers are authorized, is finalized by a
request for a certificate with the order's identifiers, and at the end gives the certificate.
-/

namespace AcmeClient

/-- Creates an order of an account. Nothing is sent for it unless there are identifiers, the
server offers what is needed and all dates can be written. -/
def OrderRequest.create (r : OrderRequest) (owner : Credentials) : Action Order := do
  if r.identifiers.isEmpty then throw (.invalidArgument .noIdentifiers)
  let directory := (← Session.currentDirectory).content
  match r.missing? directory with
  | some feature => throw (.unsupported feature)
  | none =>
    let payload ← r.payload
    let response ←
      Session.send directory.newOrder (some (Resource.NewOrder.codec.write payload)) owner.signer
    let location ← response.location
    let answer ← response.decode Resource.Order.codec
    let blank : Resource.Order := { identifiers := r.identifiers }
    return { owner, location, content := ← blank.refreshed answer }

namespace Order

/-- The authorizations of an order, as the server now describes them. -/
def authorizations (order : Order) : Action (List Authorization) :=
  order.content.authorizations.mapM (Tracked.load order.owner)

/-- Waits until the order can be finalized or will not change any more. -/
def awaitReady (policy : RetryPolicy) : Tracking Resource.Order Status :=
  Tracked.await (fun status => status == .ready || status.isFinal) policy

/-- The signed request for a certificate with the identifiers of an order. -/
def certificateRequest (order : Order) (key : SigningKey) : Except Error Bytes :=
  (X509.Request.make key order.content.identifiers).mapError .credential

/-- Finalizes the order with the key of the certificate. -/
def finalize (key : SigningKey) : Tracking Resource.Order Unit := do
  let (_, order) ← get
  if order.content.finalize = "" then
    throw (.protocolViolation (.noFinalizeUrl order.location))
  let der ← certificateRequest order key
  Tracked.submit order.content.finalize
    (Resource.Finalization.codec.write (.ofRequest der))

/-- The certificate of an order, with the key that the order was finalized with. -/
def download (order : Order) (key : SigningKey) : Action CertificateBundle := do
  match order.content.certificateUrl? with
  | none => throw (.protocolViolation (.noCertificate order.location order.content.status))
  | some url =>
    let response ← Session.send url none order.owner.signer
    return { privateKey := key.toPem, certificate := response.text }

end Order

end AcmeClient
