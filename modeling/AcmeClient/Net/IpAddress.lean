import AcmeClient.Text.Utf8

/-!
# Internet addresses

An address of version 4 has four octets, one of version 6 eight groups of 16 bits. The text of a
version 6 address leaves out its first longest row of at least two zero groups, and shows the
last 32 bits of a mapped address in the form of version 4. Reading accepts every such text.
-/

namespace AcmeClient

/-- An address of version 4. -/
structure Ipv4 where
  a : UInt8
  b : UInt8
  c : UInt8
  d : UInt8
  deriving DecidableEq, Repr

/-- An address of version 6. -/
structure Ipv6 where
  groups : List UInt16
  length_eq : groups.length = 8 := by decide
  deriving DecidableEq, Repr

/-- An address of either version. -/
inductive IpAddress where
  | v4 (address : Ipv4)
  | v6 (address : Ipv6)
  deriving DecidableEq, Repr

namespace Ipv4

/-- The four octets. -/
def octets (x : Ipv4) : Bytes := [x.a, x.b, x.c, x.d]

/-- The text of an address: decimal numbers between full stops. -/
def toChars (x : Ipv4) : List Char :=
  Nat.toDigits 10 x.a.toNat ++ '.' :: Nat.toDigits 10 x.b.toNat ++
    '.' :: Nat.toDigits 10 x.c.toNat ++ '.' :: Nat.toDigits 10 x.d.toNat

/-- Reads a number below 256 of at most three digits, without a zero in front. -/
def readOctet (cs : List Char) : Option (UInt8 × List Char) :=
  let digits := cs.takeWhile (·.isDigit)
  let value := digits.foldl (fun n c => n * 10 + (c.toNat - 48)) 0
  if digits = [] ∨ 3 < digits.length ∨ (digits.head? = some '0' ∧ 1 < digits.length) ∨ 255 < value
  then none
  else some (UInt8.ofNat value, cs.dropWhile (·.isDigit))

/-- Reads a full stop and a number below 256. -/
def readNext : List Char → Option (UInt8 × List Char)
  | '.' :: cs => readOctet cs
  | _ => none

/-- Reads an address at the front. -/
def read (cs : List Char) : Option (Ipv4 × List Char) := do
  let (a, cs) ← readOctet cs
  let (b, cs) ← readNext cs
  let (c, cs) ← readNext cs
  let (d, cs) ← readNext cs
  some (⟨a, b, c, d⟩, cs)

end Ipv4

namespace Ipv6

/-- The sixteen octets. -/
def octets (x : Ipv6) : Bytes :=
  x.groups.flatMap fun g => [UInt8.ofNat (g.toNat / 256), UInt8.ofNat g.toNat]

/-- Eight groups, or the zero address if the number differs. -/
def ofGroups (groups : List UInt16) : Ipv6 :=
  if h : groups.length = 8 then ⟨groups, h⟩ else ⟨List.replicate 8 0, by decide⟩

/-- The text of a group. -/
def groupChars (g : UInt16) : List Char := Nat.toDigits 16 g.toNat

/-- Groups between colons. -/
def joined : List UInt16 → List Char
  | [] => []
  | [g] => groupChars g
  | g :: rest => groupChars g ++ ':' :: joined rest

/-- The length of the row of zeros in front. -/
def zeros (groups : List UInt16) : Nat := (groups.takeWhile (· = 0)).length

/-- The first longest row of zeros: where it starts and its length. -/
def longestZeros : List UInt16 → Nat × Nat
  | [] => (0, 0)
  | g :: rest =>
    let here := zeros (g :: rest)
    let (start, length) := longestZeros rest
    if length ≤ here then (0, here) else (start + 1, length)

/-- The text with the longest row of zeros left out. -/
def toCompressedChars (x : Ipv6) : List Char :=
  let (start, length) := longestZeros x.groups
  if 1 < length then
    joined (x.groups.take start) ++ ':' :: ':' :: joined (x.groups.drop (start + length))
  else joined x.groups

/-- The version 4 address in the last 32 bits. -/
def lastFour (x : Ipv6) : Ipv4 :=
  let octet (i shift : Nat) := UInt8.ofNat ((x.groups.getD i 0).toNat / shift)
  ⟨octet 6 256, octet 6 1, octet 7 256, octet 7 1⟩

/-- The text of an address. -/
def toChars (x : Ipv6) : List Char :=
  if x.groups.take 6 = [0, 0, 0, 0, 0, 0xFFFF] then
    [':', ':', 'f', 'f', 'f', 'f', ':'] ++ x.lastFour.toChars
  else x.toCompressedChars

/-- The value of a hexadecimal digit. -/
def hexValue? (c : Char) : Option Nat :=
  if '0' ≤ c ∧ c ≤ '9' then some (c.toNat - 48)
  else if 'a' ≤ c ∧ c ≤ 'f' then some (c.toNat - 87)
  else if 'A' ≤ c ∧ c ≤ 'F' then some (c.toNat - 55)
  else none

/-- Reads a group of one to four digits. -/
def readGroup (cs : List Char) : Option (UInt16 × List Char) :=
  let digits := (cs.takeWhile fun c => (hexValue? c).isSome).filterMap hexValue?
  if digits = [] ∨ 4 < digits.length then none
  else some (UInt16.ofNat (digits.foldl (· * 16 + ·) 0), cs.dropWhile fun c => (hexValue? c).isSome)

/-- Passes the colon in front of every group but the first. -/
def passColon (isFirst : Bool) (cs : List Char) : Option (List Char) :=
  if isFirst then some cs
  else match cs with
    | ':' :: rest => some rest
    | _ => none

/-- Reads groups up to a number of them, the last two possibly as a version 4 address; tells
whether they were, and what follows. -/
def readGroups : Nat → Bool → List Char → List UInt16 × Bool × List Char
  | 0, _, cs => ([], false, cs)
  | room + 1, isFirst, cs =>
    match passColon isFirst cs with
    | none => ([], false, cs)
    | some rest =>
      match if 0 < room then Ipv4.read rest else none with
      | some (x, after) =>
        ([UInt16.ofNat (x.a.toNat * 256 + x.b.toNat), UInt16.ofNat (x.c.toNat * 256 + x.d.toNat)],
          true, after)
      | none =>
        match readGroup rest with
        | none => ([], false, cs)
        | some (g, after) =>
          let (groups, mapped, left) := readGroups room false after
          (g :: groups, mapped, left)

/-- Reads an address at the front. -/
def read (cs : List Char) : Option (Ipv6 × List Char) :=
  match readGroups 8 true cs with
  | (groups, mapped, rest) =>
    if groups.length = 8 then some (ofGroups groups, rest)
    else if mapped then none
    else match rest with
      | ':' :: ':' :: rest =>
        let (more, _, rest) := readGroups (7 - groups.length) true rest
        let gap := List.replicate (8 - groups.length - more.length) 0
        some (ofGroups (groups ++ gap ++ more), rest)
      | _ => none

end Ipv6

namespace IpAddress

/-- The octets of an address. -/
def octets : IpAddress → Bytes
  | v4 x => x.octets
  | v6 x => x.octets

/-- The text of an address. -/
def toText : IpAddress → String
  | v4 x => .ofList x.toChars
  | v6 x => .ofList x.toChars

/-- The address with the given text. -/
def ofText? (s : String) : Option IpAddress :=
  match Ipv4.read s.toList with
  | some (x, []) => some (v4 x)
  | some _ => none
  | none =>
    match Ipv6.read s.toList with
    | some (x, []) => some (v6 x)
    | _ => none

end IpAddress

end AcmeClient
