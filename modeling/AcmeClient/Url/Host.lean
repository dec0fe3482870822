import AcmeClient.Idna.Domain
import AcmeClient.Net.IpAddress
import AcmeClient.Url.PercentEncoding

/-!
# Hosts

The host of a web address is a domain name in ASCII or an Internet address. A name whose last
label is a number is an address of version 4, in any of its historical spellings, and an address
of version 6 stands between brackets. Other addresses may have any text without separators as
their host.
-/

namespace AcmeClient.Url

/-- Why a text is not a URL. -/
inductive Fault where
  | emptyHost
  | badInternationalName
  | badPort
  | badIpv4
  | badIpv6
  | badDomainChar
  | noBase
  | pathlessBase
  deriving DecidableEq, Repr

/-- The wording of a fault. -/
def Fault.message : Fault → String
  | .emptyHost => "empty host"
  | .badInternationalName => "invalid international domain name"
  | .badPort => "invalid port number"
  | .badIpv4 => "invalid IPv4 address"
  | .badIpv6 => "invalid IPv6 address"
  | .badDomainChar => "invalid domain character"
  | .noBase => "relative URL without a base"
  | .pathlessBase => "relative URL with a cannot-be-a-base base"

/-- The host of a URL. -/
inductive Host where
  | domain (name : String)
  | address (ip : IpAddress)
  deriving DecidableEq, Repr

namespace Host

/-- The value of digits in a base. -/
def numberValue (base : Nat) (digits : List Nat) : Nat := digits.foldl (· * base + ·) 0

/-- A part of a version 4 address: decimal, octal after `0`, hexadecimal after `0x`. -/
def addressPart? (cs : List Char) : Option Nat :=
  let read (base : Nat) (cs : List Char) : Option Nat :=
    if cs = [] then some 0
    else do
      let digits ← cs.mapM Hex.digitValue?
      if digits.all (· < base) then some (numberValue base digits) else none
  match cs with
  | [] => none
  | '0' :: 'x' :: rest => read 16 rest
  | '0' :: 'X' :: rest => read 16 rest
  | '0' :: c :: rest => read 8 (c :: rest)
  | cs => read 10 cs

/-- The labels of a name without an empty one at the end. -/
def labels (name : List Char) : List (List Char) :=
  let parts := Text.splitOn '.' name
  if parts.getLast? = some [] then parts.dropLast else parts

/-- Whether the last label of a name is a number. -/
def endsInNumber (name : List Char) : Bool :=
  match (labels name).getLast? with
  | none => false
  | some last => (!last.isEmpty && last.all (·.isDigit)) || (addressPart? last).isSome

/-- The address of version 4 with up to four parts; the last part fills the octets that remain. -/
def ipv4? (name : List Char) : Option Ipv4 := do
  let parts := labels name
  if 4 < parts.length then none
  let numbers ← parts.mapM addressPart?
  let last ← numbers.getLast?
  let front := numbers.dropLast
  if Nat.pow 256 (4 - front.length) ≤ last ∨ front.any (255 < ·) then none
  let value := last + (front.zip [16777216, 65536, 256]).foldl (fun sum (n, unit) => sum + n * unit) 0
  some ⟨UInt8.ofNat (value / 16777216), UInt8.ofNat (value / 65536), UInt8.ofNat (value / 256),
    UInt8.ofNat value⟩

/-- The host of a web address whose text is not between brackets. -/
def ofName (text : List Char) : Except Fault Host :=
  match Idna.toAscii? (Utf8.decodeLossy (percentDecode text)).toList with
  | none => .error .badInternationalName
  | some name =>
    if name = [] then .error .emptyHost
    else if endsInNumber name then
      match ipv4? name with
      | none => .error .badIpv4
      | some x => .ok (.address (.v4 x))
    else .ok (.domain (.ofList name))

/-- A group, then the colon or the end that must follow it. -/
def ipv6Groups : Nat → List Char → Option (List UInt16 × List Char)
  | 0, _ => none
  | room + 1, cs =>
    match Ipv6.readGroup (cs.take 4) with
    | none => some ([], cs)
    | some (g, left) =>
      let rest := left ++ cs.drop 4
      match rest with
      | '.' :: _ => some ([], cs)
      | [] => some ([g], [])
      | [':'] => none
      | ':' :: ':' :: after => some ([g], ':' :: ':' :: after)
      | ':' :: after => (ipv6Groups room after).map fun (groups, tail) => (g :: groups, tail)
      | _ => none

/-- An octet of the version 4 address at the end of a version 6 address. -/
def mappedOctet (cs : List Char) : Option (Nat × List Char) :=
  let digits := cs.takeWhile (·.isDigit)
  let value := numberValue 10 (digits.map fun c => c.toNat - 48)
  if digits = [] ∨ (digits.head? = some '0' ∧ 1 < digits.length) ∨ 255 < value then none
  else some (value, cs.dropWhile (·.isDigit))

/-- The two groups of the version 4 address at the end of a version 6 address. -/
def mappedGroups? (cs : List Char) : Option (List UInt16) := do
  let next : List Char → Option (Nat × List Char)
    | '.' :: rest => mappedOctet rest
    | _ => none
  let (a, cs) ← mappedOctet cs
  let (b, cs) ← next cs
  let (c, cs) ← next cs
  let (d, cs) ← next cs
  if cs = [] then some [UInt16.ofNat (a * 256 + b), UInt16.ofNat (c * 256 + d)] else none

/-- Groups up to the end of the text, the last two possibly as a version 4 address. -/
def ipv6Tail? (cs : List Char) : Option (List UInt16) := do
  let (groups, rest) ← ipv6Groups 9 cs
  match rest with
  | [] => some groups
  | ':' :: _ => none
  | _ => (groups ++ ·) <$> mappedGroups? rest

/-- The address of version 6 between brackets. -/
def ipv6? (cs : List Char) : Option Ipv6 := do
  let full (groups : List UInt16) : Option Ipv6 :=
    if h : groups.length = 8 then some ⟨groups, h⟩ else none
  match cs with
  | ':' :: ':' :: rest => around [] rest
  | ':' :: _ => none
  | _ =>
    let (groups, rest) ← ipv6Groups 9 cs
    match rest with
    | [] => full groups
    | ':' :: ':' :: rest => around groups rest
    | _ => if groups.length = 6 then mappedGroups? rest >>= fun last => full (groups ++ last) else none
where
  around (front : List UInt16) (rest : List Char) : Option Ipv6 := do
    let back ← ipv6Tail? rest
    if 7 < front.length + back.length then none
    let groups := front ++ List.replicate (8 - front.length - back.length) 0 ++ back
    if h : groups.length = 8 then some ⟨groups, h⟩ else none

/-- The address between brackets. -/
def ofBracketed (text : List Char) : Except Fault Host :=
  if text.getLast? = some ']' then
    match ipv6? (text.drop 1).dropLast with
    | none => .error .badIpv6
    | some x => .ok (.address (.v6 x))
  else .error .badIpv6

/-- The host of a web address. -/
def ofChars (text : List Char) : Except Fault Host :=
  if text.head? = some '[' then ofBracketed text else ofName text

/-- The host of a web address. -/
def parse (s : String) : Except Fault Host := ofChars s.toList

/-- Whether a host of another address cannot hold a character. -/
def isSeparator (c : Char) : Bool :=
  ['\x00', '\t', '\n', '\r', ' ', '#', '/', ':', '<', '>', '?', '@', '[', '\\', ']', '^', '|'].contains c

/-- The host of an address that is not a web address. -/
def ofOtherText (text : List Char) : Except Fault Host :=
  if text.head? = some '[' then ofBracketed text
  else if text.any isSeparator then .error .badDomainChar
  else .ok (.domain (.ofList (percentEncode [] text)))

/-- The text of a host. -/
def toText : Host → String
  | domain name => name
  | address (.v4 x) => .ofList x.toChars
  | address (.v6 x) => .ofList ('[' :: x.toCompressedChars ++ [']'])

end Host

end AcmeClient.Url
