import AcmeClient.Text.Utf8

/-!
# Hexadecimal text

Each octet is written with two lowercase digits.
-/

namespace AcmeClient.Hex

/-- The lowercase digit of a value below 16. -/
def digit (n : Nat) : Char := if n < 10 then Char.ofNat (48 + n) else Char.ofNat (87 + n)

/-- The value of a digit of either case. -/
def digitValue? (c : Char) : Option Nat :=
  if '0' ≤ c ∧ c ≤ '9' then some (c.toNat - 48)
  else if 'a' ≤ c ∧ c ≤ 'f' then some (c.toNat - 87)
  else if 'A' ≤ c ∧ c ≤ 'F' then some (c.toNat - 55)
  else none

/-- The two digits of an octet. -/
def octet (b : UInt8) : List Char := [digit (b.toNat / 16), digit (b.toNat % 16)]

/-- The text of octets. -/
def encode (b : Bytes) : String := .ofList (b.flatMap octet)

/-- Reads pairs of digits. -/
def decodeChars : List Char → Option Bytes
  | [] => some []
  | [_] => none
  | hi :: lo :: rest =>
    match digitValue? hi, digitValue? lo, decodeChars rest with
    | some h, some l, some bytes => some (UInt8.ofNat (16 * h + l) :: bytes)
    | _, _, _ => none

/-- The octets of a hexadecimal text. -/
def decode? (s : String) : Option Bytes := decodeChars s.toList

end AcmeClient.Hex
