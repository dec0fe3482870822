import AcmeClient.Error
import AcmeClient.Identifier.Equality
import AcmeClient.X509.Certificate
import AcmeClient.X509.PrivateKey

/-!
# Requests for certificates

A request names the subject and its alternative names, and is signed with the key of the
certificate to be issued. The first domain is the common name; all identifiers are alternative
names, in their order. Reading a request gives back the subject, the public key and the names.
-/

namespace AcmeClient.X509

/-- The parts of a request. -/
structure Request where
  subject : Name
  publicKey : Bytes
  altNames : List GeneralName
  deriving DecidableEq, Repr

namespace Request

/-- The subject for a list of identifiers: the first domain, if there is one. -/
def subjectFor (identifiers : List Identifier) : Except CredentialFault Name :=
  match identifiers.find? (·.isDns) with
  | none => .ok []
  | some primary =>
    match Name.ofText? ("CN=" ++ primary.value) with
    | some name => .ok name
    | none => .error .subject

/-- The alternative name for an identifier. -/
def altName (i : Identifier) : Except CredentialFault GeneralName :=
  if i.isDns then
    let octets := Utf8.encode i.value
    if GeneralName.isAscii octets then .ok (.dns octets) else .error .unreadable
  else match i.address with
    | .ok a => .ok (.ip a.octets)
    | .error (.protocolViolation fault) => .error (.identifier fault)
    | .error _ => .error .unreadable

/-- The request for identifiers with a key. -/
def create (key : SigningKey) (identifiers : List Identifier) : Except CredentialFault Request := do
  let subject ← subjectFor identifiers
  let altNames ← identifiers.mapM altName
  if altNames.isEmpty then throw .noIdentifiers
  return { subject, publicKey := key.publicPoint.octets, altNames }

/-- The extension for alternative names; it is critical if there is no subject. -/
def extension (r : Request) : Extension where
  oid := Oid.subjectAltName
  critical := r.subject.isEmpty
  value := Der.write 0x30 (r.altNames.flatMap GeneralName.write)

/-- The octets of a public key. -/
def writePublicKey (b : Bytes) : Bytes :=
  Der.write 0x30 (SigningKey.algorithm ++ Der.write 0x03 (0 :: b))

/-- The part of a request that is signed. -/
def writeInfo (r : Request) : Bytes :=
  Der.write 0x30 <|
    Der.writeNatural 0 ++ r.subject.write ++ writePublicKey r.publicKey ++
      Der.write 0xA0 (Der.write 0x30 <|
        Der.write 0x06 Oid.extensionRequest ++
          Der.write 0x31 (Der.write 0x30 r.extension.write))

/-- The element of a signature. -/
def writeSignature (s : Signature) : Bytes :=
  Der.write 0x30 (Der.writeNatural s.r ++ Der.writeNatural s.s)

/-- The octets of a request signed with a key. -/
def sign (r : Request) (key : SigningKey) : Bytes :=
  Der.write 0x30 <|
    r.writeInfo ++ Der.write 0x30 (Der.write 0x06 Oid.ecdsaWithSha256) ++
      Der.write 0x03 (0 :: writeSignature (key.sign r.writeInfo))

/-- The signed octets of the request for identifiers, which have the length of an element's content
at most. -/
def make (key : SigningKey) (identifiers : List Identifier) : Except CredentialFault Bytes := do
  let der := (← create key identifiers).sign key
  if Der.longest < der.length then throw .unreadable
  return der

/-- The alternative names in the value of their extension. -/
def readAltNames (value : Bytes) : Option (List GeneralName) :=
  Der.Reader.whole (Der.Reader.list GeneralName.read) value

/-- The octets of a public key of the curve. -/
def readPublicKey : Der.Reader Bytes :=
  Der.Reader.within 0x30 do
    Der.Reader.within 0x30 do
      if (← Der.Reader.oid) ≠ Oid.ecPublicKey then failure
      if (← Der.Reader.oid) ≠ Oid.p256 then failure
    SigningKey.wholeBits 0x03

/-- The only extension that a request asks for. -/
def readExtension : Der.Reader Extension :=
  Der.Reader.within 0xA0 <| Der.Reader.within 0x30 do
    if (← Der.Reader.oid) ≠ Oid.extensionRequest then failure
    Der.Reader.within 0x31 (Der.Reader.within 0x30 Extension.read)

/-- The signed part of a request whose only extension holds alternative names. -/
def readInfo : Der.Reader Request :=
  Der.Reader.within 0x30 do
    if (← Der.Reader.small) ≠ 0 then failure
    let subject ← Name.read
    let publicKey ← readPublicKey
    let extension ← readExtension
    if extension.oid ≠ Oid.subjectAltName then failure
    match readAltNames extension.value with
    | some altNames => return { subject, publicKey, altNames }
    | none => failure

/-- A request; its signature is not verified. -/
def read : Der.Reader Request :=
  Der.Reader.within 0x30 do
    let r ← readInfo
    let _ ← Der.Reader.within 0x30 Der.Reader.oid
    let _ ← SigningKey.wholeBits 0x03
    return r

/-- The request with the given octets. -/
def decode? (b : Bytes) : Option Request := Der.Reader.whole read b

end Request

end AcmeClient.X509
