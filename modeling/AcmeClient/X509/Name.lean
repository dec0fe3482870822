import AcmeClient.Text.Blank
import AcmeClient.X509.Oid

/-!
# Distinguished names

A distinguished name is a sequence of sets of attributes. Its text lists the sets from the last
to the first, separated by commas, with `+` between the attributes of one set; a backslash takes
the meaning from the character after it.
-/

namespace AcmeClient.X509

/-- An attribute: its type and its value. -/
structure Attribute where
  type : Bytes
  value : Der.Element
  deriving DecidableEq, Repr

/-- A distinguished name. -/
abbrev Name := List (List Attribute)

namespace Attribute

/-- The octets of an attribute. -/
def write (a : Attribute) : Bytes :=
  Der.write 0x30 (Der.write 0x06 a.type ++ Der.write a.value.tag a.value.content)

/-- An attribute. -/
def read : Der.Reader Attribute :=
  Der.Reader.within 0x30 do return ⟨← Der.Reader.oid, ← Der.Reader.element⟩

/-- What separates a text at the marks that no backslash precedes; two backslashes stand for
themselves. The first arguments are the two octets before. -/
def splitUnescaped (mark : UInt8) : UInt8 → UInt8 → Bytes → List Bytes
  | _, _, [] => [[]]
  | x, y, b :: rest =>
    if b = mark ∧ (y ≠ 0x5C ∨ x = 0x5C) then [] :: splitUnescaped mark y b rest
    else match splitUnescaped mark y b rest with
      | [] => [[b]]
      | piece :: more => (b :: piece) :: more

/-- The value of a hexadecimal digit. -/
def hexValue? (b : UInt8) : Option UInt8 :=
  if 0x30 ≤ b ∧ b ≤ 0x39 then some (b - 0x30)
  else if 0x61 ≤ b ∧ b ≤ 0x66 then some (b - 0x57)
  else if 0x41 ≤ b ∧ b ≤ 0x46 then some (b - 0x37)
  else none

/-- The octets that pairs of hexadecimal digits stand for. -/
def hexOctets? : Bytes → Option Bytes
  | [] => some []
  | [_] => none
  | h :: l :: rest => do
    let h ← hexValue? h
    let l ← hexValue? l
    return (h * 16 + l) :: (← hexOctets? rest)

/-- The characters that a backslash takes the meaning from. -/
def escapable : Bytes := [0x20, 0x22, 0x23, 0x3D, 0x5C, 0x2B, 0x2C, 0x3B, 0x3C, 0x3E]

/-- The text of a value without backslashes. -/
def unescape? : Bytes → Option Bytes
  | [] => some []
  | [b] => if b = 0x5C then some [] else some [b]
  | [b, c] =>
    if b = 0x5C then
      if escapable.contains c then some [c] else (hexValue? c).map fun _ => []
    else (unescape? [c]).map (b :: ·)
  | b :: c :: d :: rest =>
    if b = 0x5C then
      if escapable.contains c then (unescape? (d :: rest)).map (c :: ·)
      else do
        let h ← hexValue? c
        let l ← hexValue? d
        return (h * 16 + l) :: (← unescape? rest)
    else (unescape? (c :: d :: rest)).map (b :: ·)

/-- The tag of a value of an attribute given as text. -/
def textTag (type : Bytes) : UInt8 :=
  if type = Oid.country ∨ type = Oid.serialNumber then 0x13
  else if type = Oid.domainComponent then 0x16
  else 0x0C

/-- The type with a name or in dotted form. -/
def typeOf? (key : Bytes) : Option Bytes :=
  let chars := key.map fun b => (Char.ofNat b.toNat).toLower
  match Oid.attributeNames.find? (·.1.toList = chars) with
  | some (_, oid) => some oid
  | none => do
    let arcs ← (Text.splitOn '.' chars).mapM fun cs =>
      if cs ≠ [] ∧ cs.all (·.isDigit) then
        some (cs.foldl (fun n c => n * 10 + (c.toNat - 48)) 0)
      else none
    Der.oidOfArcs? arcs

/-- The attribute with a text such as `CN=value`; after `#` the value is given in hexadecimal
digits. -/
def ofText? (text : Bytes) : Option Attribute := do
  let key := text.takeWhile (· ≠ 0x3D)
  match text.drop key.length with
  | [] => none
  | _ :: value =>
    let type ← typeOf? key
    match value with
    | 0x23 :: digits =>
      let octets ← hexOctets? digits
      return ⟨type, ← Der.Reader.whole Der.Reader.element octets⟩
    | value => return ⟨type, ⟨textTag type, ← unescape? value⟩⟩

end Attribute

namespace Name

/-- Whether two octet strings are in the order of sets. -/
def before (a b : Bytes) : Bool :=
  match a, b with
  | [], _ => true
  | _ :: _, [] => false
  | x :: a, y :: b => x < y || (x == y && before a b)

/-- The octets of a set of attributes. -/
def writeSet (set : List Attribute) : Bytes :=
  Der.write 0x31 ((set.map Attribute.write).mergeSort before).flatten

/-- The octets of a name. -/
def write (name : Name) : Bytes := Der.write 0x30 (name.flatMap writeSet)

/-- A set of attributes, which must differ. -/
def readSet : Der.Reader (List Attribute) := do
  let set ← Der.Reader.within 0x31 (Der.Reader.many Attribute.read)
  if set.eraseDups.length = set.length then return set else failure

/-- A name. -/
def read : Der.Reader Name := Der.Reader.list readSet

/-- The set of attributes with a text. -/
def setOfText? (text : Bytes) : Option (List Attribute) := do
  let set ← (Attribute.splitUnescaped 0x2B 0 0 text).mapM Attribute.ofText?
  if set.eraseDups.length = set.length then some set else none

/-- The name with a text. -/
def ofText? (s : String) : Option Name := do
  let sets ← (Attribute.splitUnescaped 0x2C 0 0 (Utf8.encode s)).mapM setOfText?
  return sets.reverse

end Name

end AcmeClient.X509
