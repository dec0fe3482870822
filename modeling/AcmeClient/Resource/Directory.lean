import AcmeClient.Error
import AcmeClient.Json.Dictionary

/-!
# Directories

A directory lists the endpoints of a server and what the server offers.
-/

namespace AcmeClient.Resource

/-- What a server offers for automatic renewal. -/
structure RenewalTerms where
  minLifetime : Option UInt64 := none
  maxDuration : Option UInt64 := none
  allowCertificateGet : Option Bool := none
  deriving DecidableEq, Repr

/-- What a server offers. -/
structure Capabilities where
  termsOfService : Option String := none
  website : Option String := none
  caaIdentities : Option (List String) := none
  externalAccountRequired : Option Bool := none
  autoRenewal : Option RenewalTerms := none
  profiles : Option (Json.Dictionary String) := none
  subdomainAuthAllowed : Option Bool := none
  deriving DecidableEq, Repr

/-- The directory of a server. -/
structure Directory where
  newNonce : String
  newAccount : String
  newOrder : String
  newAuthz : Option String := none
  revokeCert : Option String := none
  keyChange : Option String := none
  renewalInfo : Option String := none
  offers : Option Capabilities := none
  deriving DecidableEq, Repr

namespace RenewalTerms

/-- The members of renewal terms. -/
def record : Json.Record RenewalTerms where
  blank := {}
  members := [
    .optional "min-lifetime" .uint64 (·.minLifetime) fun x t => { t with minLifetime := x },
    .optional "max-duration" .uint64 (·.maxDuration) fun x t => { t with maxDuration := x },
    .optional "allow-certificate-get" .bool (·.allowCertificateGet)
      fun x t => { t with allowCertificateGet := x }]

/-- Renewal terms in JSON text. -/
def codec : Json.Codec RenewalTerms := record.codec

end RenewalTerms

namespace Capabilities

/-- The members of capabilities. -/
def record : Json.Record Capabilities where
  blank := {}
  members := [
    .optional "termsOfService" .text (·.termsOfService) fun x c => { c with termsOfService := x },
    .optional "website" .text (·.website) fun x c => { c with website := x },
    .optional "caaIdentities" (.list .text) (·.caaIdentities)
      fun x c => { c with caaIdentities := x },
    .optional "externalAccountRequired" .bool (·.externalAccountRequired)
      fun x c => { c with externalAccountRequired := x },
    .optional "auto-renewal" RenewalTerms.codec (·.autoRenewal)
      fun x c => { c with autoRenewal := x },
    .optional "profiles" (.dictionary .text) (·.profiles) fun x c => { c with profiles := x },
    .optional "subdomainAuthAllowed" .bool (·.subdomainAuthAllowed)
      fun x c => { c with subdomainAuthAllowed := x }]

/-- Capabilities in JSON text. -/
def codec : Json.Codec Capabilities := record.codec

/-- Whether new accounts must be bound to an account elsewhere. -/
def requiresExternalAccount (c : Capabilities) : Bool := c.externalAccountRequired.getD false

/-- Whether certificates can be renewed automatically. -/
def offersRenewal (c : Capabilities) : Bool := c.autoRenewal.isSome

/-- Whether renewed certificates can be fetched without authentication. -/
def offersRenewalGet (c : Capabilities) : Bool :=
  (c.autoRenewal.bind (·.allowCertificateGet)).getD false

/-- Whether there are certificate profiles. -/
def offersProfiles (c : Capabilities) : Bool := c.profiles.any (!·.isEmpty)

/-- Whether there is a certificate profile of the given name. -/
def offersProfile (c : Capabilities) (name : String) : Bool := c.profiles.any (·.contains name)

/-- Whether domains can be authorized through their ancestors. -/
def offersSubdomains (c : Capabilities) : Bool := c.subdomainAuthAllowed.getD false

end Capabilities

namespace Directory

/-- The members of a directory. -/
def record : Json.Record Directory where
  blank := ⟨"", "", "", none, none, none, none, none⟩
  members := [
    .required "newNonce" .text (·.newNonce) fun x d => { d with newNonce := x },
    .required "newAccount" .text (·.newAccount) fun x d => { d with newAccount := x },
    .required "newOrder" .text (·.newOrder) fun x d => { d with newOrder := x },
    .optional "newAuthz" .text (·.newAuthz) fun x d => { d with newAuthz := x },
    .optional "revokeCert" .text (·.revokeCert) fun x d => { d with revokeCert := x },
    .optional "keyChange" .text (·.keyChange) fun x d => { d with keyChange := x },
    .optional "renewalInfo" .text (·.renewalInfo) fun x d => { d with renewalInfo := x },
    .optional "meta" Capabilities.codec (·.offers) fun x d => { d with offers := x }]

/-- Directories in JSON text. -/
def codec : Json.Codec Directory := record.codec

/-- The URL of an endpoint. -/
def url? (d : Directory) : Endpoint → Option String
  | .newNonce => some d.newNonce
  | .newAccount => some d.newAccount
  | .newOrder => some d.newOrder
  | .newAuthz => d.newAuthz
  | .revokeCert => d.revokeCert
  | .keyChange => d.keyChange
  | .renewalInfo => d.renewalInfo

/-- What the server offers. -/
def capabilities (d : Directory) : Capabilities := d.offers.getD {}

/-- Whether the server offers a feature. -/
def has (d : Directory) : Feature → Bool
  | .autoRenewal => d.capabilities.offersRenewal
  | .autoRenewalGet => d.capabilities.offersRenewalGet
  | .renewalInformation => d.renewalInfo.isSome
  | .profiles => d.capabilities.offersProfiles
  | .profile name => d.capabilities.offersProfile name
  | .subdomains => d.capabilities.offersSubdomains
  | .endpoint e => (d.url? e).isSome

end Directory

end AcmeClient.Resource
