import AcmeClient.CertificateBundle
import AcmeClient.Resource.Directory
import AcmeClient.Resource.Order

/-!
# Asking for an order

What an order is to ask for is put together from terms: identifiers, which are listed once each, a
period of validity or automatic renewal, which exclude each other, a profile, and a certificate to
be replaced. Some terms need features that the server must offer.
-/

namespace AcmeClient

/-- What an order is to ask for. What is set about automatic renewal counts only if that is asked
for. -/
structure OrderRequest where
  identifiers : List Identifier := []
  notBefore : Option Date := none
  notAfter : Option Date := none
  renews : Bool := false
  renewalStart : Option Date := none
  renewalEnd : Option Date := none
  renewalLifetime : Option Duration := none
  renewalAdjust : Option Duration := none
  renewalGet : Bool := false
  profile : Option String := none
  replaces : Option String := none
  deriving DecidableEq, Repr

/-- One thing to ask for. -/
inductive OrderTerm where
  | domain (name : String)
  | domains (names : List String)
  | identifier (i : Identifier)
  | identifiers (l : List Identifier)
  | notBefore (date : Date)
  | notAfter (date : Date)
  | renewal
  | renewalStart (date : Date)
  | renewalEnd (date : Date)
  | renewalLifetime (lifetime : Duration)
  | renewalAdjust (adjust : Duration)
  | renewalGet
  | profile (name : String)
  | replaces (id : String)
  | replacesCertificate (certificate : CertificateBundle)
  deriving Repr

namespace OrderRequest

/-- Adds an identifier, unless it is there already. -/
def withIdentifier (r : OrderRequest) (i : Identifier) : OrderRequest :=
  if i.isIn r.identifiers then r else { r with identifiers := r.identifiers ++ [i] }

/-- Adds identifiers one after another. -/
def withIdentifiers (r : OrderRequest) (l : List Identifier) : OrderRequest :=
  l.foldl withIdentifier r

/-- Adds a domain, which may be internationalized or a wildcard. -/
def withDomain (r : OrderRequest) (name : String) : Except Error OrderRequest := do
  return r.withIdentifier (← Identifier.dns name)

/-- Refuses a date of validity beside automatic renewal. -/
def withoutRenewal (r : OrderRequest) (field : String) : Except Error Unit :=
  if r.renews then .error (.invalidArgument (.validityWithRenewal field)) else .ok ()

/-- Sets the start of validity. -/
def withNotBefore (r : OrderRequest) (date : Date) : Except Error OrderRequest := do
  r.withoutRenewal "notBefore"
  return { r with notBefore := some date }

/-- Sets the end of validity. -/
def withNotAfter (r : OrderRequest) (date : Date) : Except Error OrderRequest := do
  r.withoutRenewal "notAfter"
  return { r with notAfter := some date }

/-- Asks for automatic renewal, unless there is a date of validity. -/
def withRenewal (r : OrderRequest) : Except Error OrderRequest :=
  if r.notBefore.isSome ∨ r.notAfter.isSome then .error (.invalidArgument .renewalWithValidity)
  else .ok { r with renews := true }

/-- Asks for automatic renewal, unless there is a date of validity, and sets something about it. -/
def withRenewalTerm (r : OrderRequest) (set : OrderRequest → OrderRequest) :
    Except Error OrderRequest := do
  return set (← r.withRenewal)

/-- Names a certificate to be replaced. -/
def withReplacement (r : OrderRequest) (certificate : CertificateBundle) :
    Except Error OrderRequest :=
  match certificate.renewalId with
  | .ok id => .ok { r with replaces := some id }
  | .error fault => .error (.invalidArgument (.unidentifiedCertificate fault))

/-- Adds a term. -/
def withTerm (r : OrderRequest) : OrderTerm → Except Error OrderRequest
  | .domain name => r.withDomain name
  | .domains names => names.foldlM withDomain r
  | .identifier i => .ok (r.withIdentifier i)
  | .identifiers l => .ok (r.withIdentifiers l)
  | .notBefore date => r.withNotBefore date
  | .notAfter date => r.withNotAfter date
  | .renewal => r.withRenewal
  | .renewalStart date => r.withRenewalTerm ({ · with renewalStart := some date })
  | .renewalEnd date => r.withRenewalTerm ({ · with renewalEnd := some date })
  | .renewalLifetime lifetime => r.withRenewalTerm ({ · with renewalLifetime := some lifetime })
  | .renewalAdjust adjust => r.withRenewalTerm ({ · with renewalAdjust := some adjust })
  | .renewalGet => r.withRenewalTerm ({ · with renewalGet := true })
  | .profile name => .ok { r with profile := some name }
  | .replaces id => .ok { r with replaces := some id }
  | .replacesCertificate certificate => r.withReplacement certificate

/-- The request made of some terms. -/
def ofTerms (terms : List OrderTerm) : Except Error OrderRequest := terms.foldlM withTerm {}

/-- Whether a domain is to be authorized through an ancestor. -/
def hasAncestors (r : OrderRequest) : Bool := r.identifiers.any (·.ancestor.isSome)

/-- The features that a server must offer, in the order in which they are checked. -/
def needs (r : OrderRequest) : List Feature :=
  (if r.renews then [.autoRenewal] else []) ++
    (if r.renewalGet then [.autoRenewalGet] else []) ++
    (if r.replaces.isSome then [.renewalInformation] else []) ++
    (match r.profile with
      | some name => [.profiles, .profile name]
      | none => []) ++
    (if r.hasAncestors then [.subdomains] else [])

/-- The first feature that a server does not offer. -/
def missing? (r : OrderRequest) (directory : Resource.Directory) : Option Feature :=
  r.needs.find? fun feature => !directory.has feature

/-- A date as requests carry it. It is taken to universal time first, where there has to be such a
date. -/
def timestamp (date : Date) : Except Error String :=
  match date.universal? with
  | none => .error (.panic (.dateOutOfRange date))
  | some universal =>
    match universal.written? with
    | some text => .ok text
    | none => .error (.invalidArgument (.unwritableDate date))

/-- A date as requests carry it, if there is one. -/
def timestampOption : Option Date → Except Error (Option String)
  | none => .ok none
  | some date => (timestamp date).map some

/-- The whole seconds of a duration. -/
def wholeSeconds (d : Duration) : UInt64 := .ofNat d.seconds

/-- What is set about automatic renewal as requests carry it. -/
def renewalPayload (r : OrderRequest) : Except Error Resource.Renewal := do
  return {
    startDate := ← timestampOption r.renewalStart
    endDate := ← timestampOption r.renewalEnd
    lifetime := r.renewalLifetime.map wholeSeconds
    lifetimeAdjust := r.renewalAdjust.map wholeSeconds
    allowCertificateGet := if r.renewalGet then some true else none }

/-- Automatic renewal as requests carry it, if it is asked for. -/
def renewalOption (r : OrderRequest) : Except Error (Option Resource.Renewal) :=
  if r.renews then r.renewalPayload.map some else .ok none

/-- What is sent to create the order. -/
def payload (r : OrderRequest) : Except Error Resource.NewOrder := do
  let renewal ← r.renewalOption
  return {
    identifiers := r.identifiers
    notBefore := ← timestampOption r.notBefore
    notAfter := ← timestampOption r.notAfter
    renewal
    replaces := r.replaces
    profile := r.profile }

end OrderRequest

end AcmeClient
