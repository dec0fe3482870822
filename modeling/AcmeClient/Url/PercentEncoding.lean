import AcmeClient.Encoding.Hex

/-!
# Percent encoding

Each component of a URL has its own set of characters that are written as `%` and two capital
hexadecimal digits per octet. Controls and characters outside ASCII are always written so.
-/

namespace AcmeClient.Url

/-- The capital digit of a value below 16. -/
def capitalDigit (n : Nat) : Char := if n < 10 then Char.ofNat (48 + n) else Char.ofNat (55 + n)

/-- An octet as `%` and two digits. -/
def percentOctet (b : UInt8) : List Char :=
  ['%', capitalDigit (b.toNat / 16), capitalDigit (b.toNat % 16)]

/-- A character, encoded if it is a control, outside ASCII or in the set. -/
def encodeChar (set : List Char) (c : Char) : List Char :=
  if c.toNat < 0x20 ∨ 0x7F ≤ c.toNat ∨ c ∈ set then
    (Utf8.encode (.ofList [c])).flatMap percentOctet
  else [c]

/-- Encodes the characters of a text that are in the set. -/
def percentEncode (set : List Char) (cs : List Char) : List Char := cs.flatMap (encodeChar set)

/-- What is encoded in a fragment. -/
def fragmentSet : List Char := [' ', '"', '<', '>', '\x60']

/-- What is encoded in a query. -/
def querySet : List Char := [' ', '"', '#', '<', '>']

/-- What is encoded in the query of a web address. -/
def webQuerySet : List Char := '\'' :: querySet

/-- What is encoded in a path. -/
def pathSet : List Char := [' ', '"', '#', '<', '>', '?', '\x60', '\x7b', '\x7d']

/-- What is encoded in a user name or password. -/
def userSet : List Char := pathSet ++ ['/', ':', ';', '=', '@', '[', '\\', ']', '^', '|']

/-- The octets that a text stands for; a `%` that does not start an encoded octet stays. -/
def percentDecode : List Char → Bytes
  | [] => []
  | '%' :: hi :: lo :: rest =>
    match Hex.digitValue? hi, Hex.digitValue? lo with
    | some h, some l => UInt8.ofNat (16 * h + l) :: percentDecode rest
    | _, _ => 0x25 :: percentDecode (hi :: lo :: rest)
  | c :: rest => Utf8.encode (.ofList [c]) ++ percentDecode rest

end AcmeClient.Url
