import AcmeClient.Problem
import AcmeClient.Status
import AcmeClient.Time.Date
import AcmeClient.Url.Host

/-!
# Errors

An error is one of a few kinds, each with its cause. The wording of every cause is fixed here,
and only here.
-/

namespace AcmeClient

/-- A resource that a directory lists. -/
inductive Endpoint where
  | newNonce
  | newAccount
  | newOrder
  | newAuthz
  | revokeCert
  | keyChange
  | renewalInfo
  deriving DecidableEq, Repr

/-- The name of an endpoint in a directory. -/
def Endpoint.name : Endpoint → String
  | newNonce => "newNonce"
  | newAccount => "newAccount"
  | newOrder => "newOrder"
  | newAuthz => "newAuthz"
  | revokeCert => "revokeCert"
  | keyChange => "keyChange"
  | renewalInfo => "renewalInfo"

/-- Why a session or its transport cannot be set up. -/
inductive ConfigurationFault where
  | badServerUri (uri : String) (fault : Url.Fault)
  | badUrl (url : String) (fault : Url.Fault)
  | refusedUri (provider uri : String)
  | noProvider (uri : String)
  | unknownDirectory (authority path : String)
  | badPebbleHost (path : String)
  | noTrustAnchor (candidates : List String)
  | zeroTimeout
  deriving DecidableEq, Repr

/-- What does not fit the protocol. -/
inductive ProtocolFault where
  | notDns (identifier : Identifier)
  | notIp (identifier : Identifier)
  | badAddress (value : String)
  | identifierMismatch (had got : List Identifier)
  | noNonce (url : String)
  | noLocation (url : String)
  | unchangedBeforeFetch (uri : String)
  | noFinalizeUrl (order : String)
  | noCertificate (order : String) (status : Status)
  | badToken (challenge token : String)
  | noToken (challenge : String)
  | badIssuer (challenge name : String)
  deriving DecidableEq, Repr

/-- What fails with keys, requests for certificates and certificates. -/
inductive CredentialFault where
  | accountKey
  | unreadable
  | subject
  | noIdentifiers
  | identifier (fault : ProtocolFault)
  | emptyChain
  | noAuthorityKey
  | badAuthorityKey
  | noKeyIdentifier
  deriving DecidableEq, Repr

/-- Why an argument is refused. -/
inductive ArgumentFault where
  | addressAsDomain (domain : String)
  | badDomain (domain : String) (fault : Url.Fault)
  | ancestorOfOther (type : String)
  | noIdentifiers
  | renewalWithValidity
  | validityWithRenewal (field : String)
  | unidentifiedCertificate (fault : CredentialFault)
  | unwritableDate (date : Date)
  | emptyIssuer
  deriving DecidableEq, Repr

/-- What a server does not offer. -/
inductive Feature where
  | autoRenewal
  | autoRenewalGet
  | renewalInformation
  | profiles
  | profile (name : String)
  | subdomains
  | endpoint (e : Endpoint)
  deriving DecidableEq, Repr

/-- What a call breaks off at, without a result. -/
inductive Panic where
  | dateOutOfRange (date : Date)
  deriving DecidableEq, Repr

/-- An error of the client, or what it breaks off at. -/
inductive Error where
  | invalidConfiguration (fault : ConfigurationFault)
  | invalidArgument (fault : ArgumentFault)
  | protocolViolation (fault : ProtocolFault)
  | server (url : String) (problem : Problem)
  | timeout (url : String) (status : Status)
  | unsupported (feature : Feature)
  | network
  | json (fault : Json.Fault)
  | credential (fault : CredentialFault)
  | panic (cause : Panic)
  deriving DecidableEq, Repr

/-- The wording of a fault of the configuration. -/
def ConfigurationFault.message : ConfigurationFault → String
  | badServerUri uri fault => s!"bad server URI {uri}: {fault.message}"
  | badUrl url fault => s!"bad URL {url}: {fault.message}"
  | refusedUri provider uri => s!"provider {provider} does not accept {uri}"
  | noProvider uri => s!"no ACME provider accepts {uri}"
  | unknownDirectory authority path => s!"unknown {authority} directory {path}"
  | badPebbleHost path => s!"invalid Pebble host {path}"
  | noTrustAnchor candidates =>
    s!"no Pebble root certificate found in {Text.quotedList candidates}"
  | zeroTimeout => "timeout must be positive"

/-- The wording of a violation of the protocol. -/
def ProtocolFault.message : ProtocolFault → String
  | notDns i => s!"expected dns identifier, but found {i.type} identifier {i.value}"
  | notIp i => s!"expected ip identifier, but found {i.type} identifier {i.value}"
  | badAddress value => s!"bad ip address {value}"
  | identifierMismatch had got =>
    s!"order identifier mismatch: had {Identifier.shownList had} " ++
      s!"and got {Identifier.shownList got}"
  | noNonce url => s!"{url} did not return a replay nonce"
  | noLocation url => s!"{url} did not return a Location header"
  | unchangedBeforeFetch uri => s!"directory of {uri} reported as unchanged before it was fetched"
  | noFinalizeUrl order => s!"order {order} has no finalize URL"
  | noCertificate order status => s!"order {order} has no certificate (status: {status.name})"
  | badToken challenge token => s!"challenge {challenge} has a malformed token {Text.quoted token}"
  | noToken challenge => s!"challenge {challenge} has no token"
  | badIssuer challenge name =>
    s!"challenge {challenge} has an invalid issuer domain name {Text.quoted name}"

/-- The wording of a fault with keys and certificates, where there is one. -/
def CredentialFault.message? : CredentialFault → Option String
  | accountKey => some "failed to read account key PEM"
  | unreadable => none
  | subject => some "build subject"
  | noIdentifiers => some "no identifiers for CSR"
  | identifier fault => some s!"protocol violation: {fault.message}"
  | emptyChain => some "no certificates in chain"
  | noAuthorityKey => some "certificate has no authority key identifier"
  | badAuthorityKey => some "decode authority key identifier"
  | noKeyIdentifier => some "authority key identifier has no key identifier"

/-- The wording of a refused argument. -/
def ArgumentFault.message : ArgumentFault → String
  | addressAsDomain domain => s!"{domain} is an IP address, not a domain name"
  | badDomain domain fault => s!"invalid domain name {domain}: {fault.message}"
  | ancestorOfOther type => s!"ancestor domain requires a dns identifier, got {type}"
  | noIdentifiers => "an order needs at least one identifier"
  | renewalWithValidity => "auto-renewal cannot be combined with notBefore/notAfter"
  | validityWithRenewal field => s!"{field} cannot be combined with auto-renewal"
  | unidentifiedCertificate fault =>
    "cannot identify certificate: " ++ fault.message?.getD ""
  | unwritableDate date =>
    s!"cannot format date {date.toText}: " ++
      "The year component cannot be formatted into the requested format."
  | emptyIssuer => "empty issuer domain name"

/-- The wording of a missing feature. -/
def Feature.message : Feature → String
  | autoRenewal => "auto-renewal"
  | autoRenewalGet => "auto-renewal certificate GET"
  | renewalInformation => "renewal information"
  | profiles => "profiles"
  | profile name => s!"profile {name}"
  | subdomains => "subdomain authorization"
  | endpoint e => s!"directory has no {e.name}"

/-- The wording of what a call breaks off at. -/
def Panic.message : Panic → String
  | dateOutOfRange _ => "local datetime out of valid range"

/-- The wording of an error, where there is one. -/
def Error.message? : Error → Option String
  | invalidConfiguration fault => some s!"invalid configuration: {fault.message}"
  | invalidArgument fault => some s!"invalid argument: {fault.message}"
  | protocolViolation fault => some s!"protocol violation: {fault.message}"
  | server url problem => some s!"{url}: {problem.message}"
  | timeout url status => some s!"timed out waiting for {url} (last status: {status.name})"
  | unsupported feature => some s!"not supported by the CA: {feature.message}"
  | network => none
  | json _ => none
  | credential fault => fault.message?
  | panic cause => some cause.message

/-- Whether an error says that the server refused a nonce. -/
def Error.isBadNonce : Error → Bool
  | server _ problem => problem.isBadNonce
  | _ => false

end AcmeClient
