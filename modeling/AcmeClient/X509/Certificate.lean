import AcmeClient.Time.Calendar
import AcmeClient.X509.GeneralName

/-!
# Certificates

A certificate binds a name to a public key for some time. Of its parts the serial number, the end
of its validity and its extensions are kept; the rest is only checked.
-/

namespace AcmeClient.X509

/-- An extension of a certificate. -/
structure Extension where
  oid : Bytes
  critical : Bool
  value : Bytes
  deriving DecidableEq, Repr

/-- The parts of a certificate that are used. -/
structure Certificate where
  serial : Bytes
  /-- The last second of validity, from the start of 1970. -/
  notAfter : Int
  extensions : List Extension
  deriving DecidableEq, Repr

/-- What identifies the key that signed a certificate. -/
structure AuthorityKey where
  keyIdentifier : Option Bytes
  deriving DecidableEq, Repr

namespace Extension

/-- The octets of an extension. -/
def write (e : Extension) : Bytes :=
  Der.write 0x30 <|
    Der.write 0x06 e.oid ++ (if e.critical then Der.write 0x01 [0xFF] else []) ++
      Der.write 0x04 e.value

/-- An extension. -/
def read : Der.Reader Extension :=
  Der.Reader.within 0x30 do
    return ⟨← Der.Reader.oid, ← Der.Reader.boolOrFalse, ← Der.Reader.content 0x04⟩

end Extension

/-- Two digits as a number. -/
def digitPair? (a b : UInt8) : Option Nat :=
  if 0x30 ≤ a ∧ a ≤ 0x39 ∧ 0x30 ≤ b ∧ b ≤ 0x39 then
    some ((a.toNat - 0x30) * 10 + (b.toNat - 0x30))
  else none

/-- The second of a date given by digits for month to second, and a closing `Z`. -/
def secondOf? (year : Nat) : Bytes → Option Int
  | [a, b, c, d, e, f, g, h, i, j, 0x5A] => do
    let month ← digitPair? a b
    let day ← digitPair? c d
    let hour ← digitPair? e f
    let minute ← digitPair? g h
    let second ← digitPair? i j
    let date : CivilDate := { year, month, day }
    if year < 1970 ∨ !date.isValid ∨ 23 < hour ∨ 59 < minute ∨ 59 < second then none
    some (date.toDays * 86400 + hour * 3600 + minute * 60 + second)
  | _ => none

/-- The second of a date: with two digits for the year, from 1950 to 2049, or with four. -/
def time : Der.Reader Int := do
  let e ← Der.Reader.element
  let second? : Option Int := match e.tag, e.content with
    | 0x17, a :: b :: rest => do
      let yy ← digitPair? a b
      secondOf? (if 50 ≤ yy then 1900 + yy else 2000 + yy) rest
    | 0x18, a :: b :: c :: d :: rest => do
      let high ← digitPair? a b
      let low ← digitPair? c d
      secondOf? (high * 100 + low) rest
    | _, _ => none
  match second? with
  | some s => return s
  | none => failure

/-- The algorithm of a key or signature, with optional parameters. -/
def algorithm : Der.Reader (Bytes × Option Der.Element) :=
  Der.Reader.within 0x30 do
    let oid ← Der.Reader.oid
    if ← Der.Reader.isDone then return (oid, none) else return (oid, some (← Der.Reader.element))

/-- The most octets of a serial number. -/
def longestSerial : Nat := 21

/-- A serial number: its octets as they stand. -/
def serial (tag : UInt8) : Der.Reader Bytes := do
  let c ← Der.Reader.content tag
  if Der.isInteger c ∧ c.length ≤ longestSerial then return c else failure

/-- The part of a certificate that is signed. -/
def signedPart : Der.Reader Certificate :=
  Der.Reader.within 0x30 do
    let version ← Der.Reader.tagged 0 (Der.Reader.within 0xA0 Der.Reader.small)
    if 2 < version.getD 0 then failure
    let number ← serial 0x02
    let _ ← algorithm
    let _ ← Name.read
    let notAfter ← Der.Reader.within 0x30 do
      let _ ← time
      time
    let _ ← Name.read
    let _ ← Der.Reader.within 0x30 do
      let _ ← algorithm
      Der.Reader.bitString 0x03
    let _ ← Der.Reader.tagged 1 (Der.Reader.bitString 0x81)
    let _ ← Der.Reader.tagged 2 (Der.Reader.bitString 0x82)
    let extensions ← Der.Reader.tagged 3
      (Der.Reader.within 0xA3 (Der.Reader.list Extension.read))
    return ⟨number, notAfter, extensions.getD []⟩

/-- A certificate. -/
def Certificate.read : Der.Reader Certificate :=
  Der.Reader.within 0x30 do
    let c ← signedPart
    let _ ← algorithm
    let _ ← Der.Reader.bitString 0x03
    return c

/-- The certificate with the given octets. -/
def Certificate.decode? (b : Bytes) : Option Certificate := Der.Reader.whole Certificate.read b

/-- The key of an authority: its identifier, its issuer's names and a serial number, each
optional. -/
def AuthorityKey.read : Der.Reader AuthorityKey :=
  Der.Reader.within 0x30 do
    let keyIdentifier ← Der.Reader.tagged 0 (Der.Reader.content 0x80)
    let _ ← Der.Reader.tagged 1 (Der.Reader.within 0xA1 (Der.Reader.many GeneralName.read))
    let _ ← Der.Reader.tagged 2 (serial 0x82)
    return ⟨keyIdentifier⟩

/-- The key of an authority with the given octets. -/
def AuthorityKey.decode? (b : Bytes) : Option AuthorityKey := Der.Reader.whole AuthorityKey.read b

end AcmeClient.X509
