import AcmeClient.Der.Basic

/-!
# Primitive values of DER

Integers, bit strings, object identifiers and truth values, each with its canonical form.
-/

namespace AcmeClient.Der

/-- Whether octets are an integer in its shortest form. -/
def isInteger : Bytes → Bool
  | [] => false
  | [_] => true
  | a :: b :: _ => !(a = 0 ∧ b < 0x80) && !(a = 0xFF ∧ 0x80 ≤ b)

/-- The content of the integer for a natural number. -/
def naturalOctets (n : Nat) : Bytes :=
  let octets := Octets.minimal n
  if 0x80 ≤ octets.headD 0 then 0 :: octets else octets

/-- A natural number as an integer. -/
def writeNatural (n : Nat) : Bytes := write 0x02 (naturalOctets n)

/-- The longest content of an object identifier. -/
def longestOid : Nat := 39

/-- Whether octets are the arcs of an object identifier; the first argument counts the octets of
the current arc. -/
def areArcs : Nat → Bytes → Bool
  | size, [] => size = 0
  | size, b :: rest =>
    if 4 ≤ size ∧ 0x0F < b then false
    else if b < 0x80 then areArcs 0 rest
    else areArcs (size + 1) rest

/-- Whether octets are an object identifier. The first octet holds two arcs. -/
def isOid (b : Bytes) : Bool :=
  3 ≤ b.length && b.length ≤ longestOid && b.headD 0 < 120 && areArcs 0 (b.drop 1)

/-- The octets of an arc, in groups of seven bits; the first argument bounds their number. -/
def arcOctetsFrom : Nat → Nat → Bytes → Bytes
  | 0, _, tail => tail
  | steps + 1, n, tail =>
    if n = 0 then tail else arcOctetsFrom steps (n / 128) (UInt8.ofNat (0x80 + n % 128) :: tail)

/-- The octets of an arc. -/
def arcOctets (n : Nat) : Bytes := arcOctetsFrom (n.log2 + 1) (n / 128) [UInt8.ofNat (n % 128)]

/-- The octets of an object identifier in dotted form. -/
def oidOfArcs? : List Nat → Option Bytes
  | a :: b :: rest =>
    let octets := UInt8.ofNat (a * 40 + b) :: rest.flatMap arcOctets
    if a ≤ 2 ∧ b < 40 ∧ rest.all (· < Nat.pow 2 32) ∧ isOid octets then some octets else none
  | _ => none

namespace Reader

/-- An integer: its content as it stands. -/
def integer : Reader Bytes := do
  let c ← content 0x02
  if isInteger c then return c else failure

/-- An integer from 0 to 255. -/
def small : Reader Nat := do
  match ← integer with
  | [a] => if a < 0x80 then return a.toNat else failure
  | [0, b] => return b.toNat
  | _ => failure

/-- An object identifier. -/
def oid : Reader Bytes := do
  let c ← content 0x06
  if isOid c then return c else failure

/-- The content of a bit string: the number of unused bits and the octets. -/
def bits (c : Bytes) : Option (Nat × Bytes) :=
  match c with
  | [] => none
  | unused :: octets =>
    if 7 < unused ∨ (unused ≠ 0 ∧ octets = []) then none else some (unused.toNat, octets)

/-- A bit string with a tag. -/
def bitString (tag : UInt8) : Reader (Nat × Bytes) := do
  match bits (← content tag) with
  | some x => return x
  | none => failure

/-- A truth value. -/
def bool : Reader Bool := do
  match ← content 0x01 with
  | [0] => return false
  | [0xFF] => return true
  | _ => failure

/-- A truth value that is false if it is missing. -/
def boolOrFalse : Reader Bool := do
  if (← peek) = some 0x01 then bool else return false

end Reader

end AcmeClient.Der
