import AcmeClient.Crypto.SigningKey
import AcmeClient.Pem.Strict
import AcmeClient.X509.Oid

/-!
# Private keys in DER and PEM

A private key is an element with a version, the algorithm and the key, which is itself an element
with the number and possibly the curve and the public key. Where a curve or public key is given it
must be the right one.
-/

namespace AcmeClient.SigningKey

open X509

/-- The identifier of the algorithm, P-256. -/
def algorithm : Bytes := Der.write 0x30 (Der.write 0x06 Oid.ecPublicKey ++ Der.write 0x06 Oid.p256)

/-- The octets of a bit string that is a whole number of octets. -/
def wholeBits (tag : UInt8) : Der.Reader Bytes := do
  let (unused, octets) ← Der.Reader.bitString tag
  if unused = 0 then return octets else failure

/-- The key with the given octets, which may lack zeros in front. -/
def ofOctets? (b : Bytes) : Option SigningKey :=
  if 24 ≤ b.length ∧ b.length ≤ 32 then ofNat? b.toNat else none

/-- Whether octets are the public key that belongs to a key. -/
def hasPublicOctets (key : SigningKey) (b : Bytes) : Bool :=
  b == key.publicPoint.octets || b == key.publicPoint.compressed

/-- The inner element of a key. -/
def readInner : Der.Reader SigningKey :=
  Der.Reader.within 0x30 do
    if (← Der.Reader.small) ≠ 1 then failure
    let octets ← Der.Reader.content 0x04
    let curve ← Der.Reader.tagged 0 (Der.Reader.within 0xA0 Der.Reader.oid)
    let publicKey ← Der.Reader.tagged 1 (Der.Reader.within 0xA1 (wholeBits 0x03))
    match ofOctets? octets with
    | none => failure
    | some key =>
      if curve.all (· = Oid.p256) ∧ publicKey.all key.hasPublicOctets then return key else failure

/-- An optional field that is passed. -/
def passField : Der.Reader Unit := do
  let e ← Der.Reader.element
  if e.tag &&& 0xE0 ≠ 0xA0 then failure
  match Der.Reader.whole Der.Reader.element e.content with
  | some _ => return ()
  | none => failure

/-- The outer element of a key. -/
def read : Der.Reader SigningKey :=
  Der.Reader.within 0x30 do
    let version ← Der.Reader.small
    if 1 < version then failure
    Der.Reader.within 0x30 do
      if (← Der.Reader.oid) ≠ Oid.ecPublicKey then failure
      if (← Der.Reader.oid) ≠ Oid.p256 then failure
    let inner ← Der.Reader.content 0x04
    let publicKey ← Der.Reader.tagged 1 (wholeBits 0x81)
    if publicKey.isSome ≠ (version = 1) then failure
    let _ ← Der.Reader.many passField
    match Der.Reader.whole readInner inner with
    | some key => return key
    | none => failure

/-- The label of keys in PEM form. -/
def pemLabel : String := "PRIVATE KEY"

/-- The key with the given octets. -/
def ofDer? (b : Bytes) : Option SigningKey := Der.Reader.whole read b

/-- The key with the given text. -/
def ofPem? (text : String) : Option SigningKey :=
  match Pem.decode? text with
  | none => none
  | some (label, octets) => if label = pemLabel then ofDer? octets else none

/-- The octets of a key. -/
def toDer (key : SigningKey) : Bytes :=
  let inner := Der.write 0x30 <|
    Der.writeNatural 1 ++ Der.write 0x04 key.octets ++
      Der.write 0xA1 (Der.write 0x03 (0 :: key.publicPoint.octets))
  Der.write 0x30 (Der.writeNatural 0 ++ algorithm ++ Der.write 0x04 inner)

/-- The text of a key. -/
def toPem (key : SigningKey) : String := Pem.encode pemLabel key.toDer

end AcmeClient.SigningKey
