import AcmeClient.Net.IpAddress
import AcmeClient.X509.Name

/-!
# General names

A certificate names its subject in one of several forms. Requests use domains and Internet
addresses; the other forms are only read.
-/

namespace AcmeClient.X509

/-- A name of a subject; the forms that are not used keep their element. -/
inductive GeneralName where
  | dns (name : Bytes)
  | ip (octets : Bytes)
  | other (element : Der.Element)
  deriving DecidableEq, Repr

namespace GeneralName

/-- The octets of a name. -/
def write : GeneralName → Bytes
  | dns name => Der.write 0x82 name
  | ip octets => Der.write 0x87 octets
  | other e => Der.write e.tag e.content

/-- Whether octets are ASCII. -/
def isAscii (b : Bytes) : Bool := b.all (· < 0x80)

/-- The content of a name given by type: an object identifier and a value. -/
def typed : Der.Reader Unit := do
  let _ ← Der.Reader.oid
  let _ ← Der.Reader.within 0xA0 Der.Reader.element
  return ()

/-- The content of a name of a party: an optional assigner and the name. -/
def party : Der.Reader Unit := do
  let _ ← Der.Reader.tagged 0 Der.Reader.element
  let _ ← Der.Reader.within 0xA1 Der.Reader.element
  return ()

/-- Whether the content of an element fits its tag. -/
def isWellFormed (e : Der.Element) : Bool :=
  match e.tag with
  | 0xA0 => (Der.Reader.whole typed e.content).isSome
  | 0x81 => isAscii e.content
  | 0xA4 => (Der.Reader.whole Name.read e.content).isSome
  | 0xA5 => (Der.Reader.whole party e.content).isSome
  | 0x86 => isAscii e.content
  | 0x88 => Der.isOid e.content
  | _ => false

/-- A name. -/
def read : Der.Reader GeneralName := do
  let e ← Der.Reader.element
  if e.tag = 0x82 then if isAscii e.content then return dns e.content else failure
  else if e.tag = 0x87 then return ip e.content
  else if isWellFormed e then return other e
  else failure

end GeneralName

end AcmeClient.X509
