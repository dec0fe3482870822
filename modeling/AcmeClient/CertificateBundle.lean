import AcmeClient.Error
import AcmeClient.Pem.Sections
import AcmeClient.X509.Certificate
import AcmeClient.X509.PrivateKey

/-!
# Certificates with their keys

An issued certificate comes as a chain in PEM form, the end entity first, and is kept with its
private key. Both texts stay as they are; everything else is read from them when asked for.
-/

namespace AcmeClient

/-- A private key and a chain of certificates, both in PEM form. -/
structure CertificateBundle where
  privateKey : String
  certificate : String
  deriving DecidableEq, Repr

namespace CertificateBundle

/-- Whether a text is one document that starts with a certificate. -/
def isCertificate (text : String) : Bool :=
  match Pem.decode? text with
  | none => false
  | some (label, octets) => label == "CERTIFICATE" && (X509.Certificate.read octets).isSome

/-- A key and a certificate that can both be read. -/
def ofText (privateKey certificate : String) : Except CredentialFault CertificateBundle :=
  if isCertificate certificate ∧ (SigningKey.ofPem? privateKey).isSome then
    .ok { privateKey, certificate }
  else .error .unreadable

/-- The octets of the private key. -/
def keyDer (b : CertificateBundle) : Except CredentialFault Bytes :=
  match SigningKey.ofPem? b.privateKey with
  | some key => .ok key.toDer
  | none => .error .unreadable

/-- The octets of the certificates of the chain. -/
def chain (b : CertificateBundle) : Except CredentialFault (List Bytes) :=
  match Pem.certificates? b.certificate with
  | some l => .ok l
  | none => .error .unreadable

/-- The first certificate of the chain. -/
def endEntity (b : CertificateBundle) : Except CredentialFault X509.Certificate := do
  match ← b.chain with
  | [] => throw .emptyChain
  | first :: _ =>
    match X509.Certificate.decode? first with
    | some c => return c
    | none => throw .unreadable

/-- The nanoseconds of a day. -/
def dayLength : Int := 86400 * 1000000000

/-- The whole days from a time, in nanoseconds from the start of 1970, to the end of validity,
rounded towards zero. -/
def validDaysLeft (b : CertificateBundle) (now : Int) : Except CredentialFault Int := do
  let c ← b.endEntity
  return (c.notAfter * 1000000000 - now).tdiv dayLength

/-- What identifies the certificate to be renewed: the identifier of its authority's key and its
serial number. -/
def renewalId (b : CertificateBundle) : Except CredentialFault String := do
  let c ← b.endEntity
  match c.extensions.find? (·.oid = X509.Oid.authorityKeyIdentifier) with
  | none => throw .noAuthorityKey
  | some e =>
    match X509.AuthorityKey.decode? e.value with
    | none => throw .badAuthorityKey
    | some ⟨none⟩ => throw .noKeyIdentifier
    | some ⟨some keyIdentifier⟩ =>
      return Base64.encodeUrl keyIdentifier ++ "." ++ Base64.encodeUrl c.serial

end CertificateBundle

end AcmeClient
