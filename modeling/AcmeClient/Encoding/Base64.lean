import AcmeClient.Text.Utf8

/-!
# Base 64

Three octets are written as four symbols of six bits. There are two alphabets: the standard
one, written with padding, and the one for URLs, written without.
-/

namespace AcmeClient.Base64

/-- The alphabet of 64 symbols. -/
inductive Alphabet where
  | standard
  | url
  deriving DecidableEq, Repr

/-- The symbol of a value below 64. -/
def Alphabet.symbol (a : Alphabet) (n : Nat) : Char :=
  if n < 26 then Char.ofNat (65 + n)
  else if n < 52 then Char.ofNat (71 + n)
  else if n < 62 then Char.ofNat (n - 4)
  else match a with
    | .standard => if n = 62 then '+' else '/'
    | .url => if n = 62 then '-' else '_'

/-- The value of a symbol. -/
def Alphabet.value? (a : Alphabet) (c : Char) : Option Nat :=
  if 'A' ≤ c ∧ c ≤ 'Z' then some (c.toNat - 65)
  else if 'a' ≤ c ∧ c ≤ 'z' then some (c.toNat - 71)
  else if '0' ≤ c ∧ c ≤ '9' then some (c.toNat + 4)
  else match a with
    | .standard => if c = '+' then some 62 else if c = '/' then some 63 else none
    | .url => if c = '-' then some 62 else if c = '_' then some 63 else none

/-- The values of six bits of octets; a last group is filled with zero bits. -/
def sextets : Bytes → List Nat
  | [] => []
  | [a] => [a.toNat / 4, a.toNat % 4 * 16]
  | [a, b] => [a.toNat / 4, a.toNat % 4 * 16 + b.toNat / 16, b.toNat % 16 * 4]
  | a :: b :: c :: rest =>
    a.toNat / 4 :: (a.toNat % 4 * 16 + b.toNat / 16) :: (b.toNat % 16 * 4 + c.toNat / 64)
      :: c.toNat % 64 :: sextets rest

/-- The octets of six-bit values. The flag asks that the bits left over are zero. -/
def octets (canonical : Bool) : List Nat → Option Bytes
  | [] => some []
  | [_] => none
  | [a, b] =>
    if canonical ∧ b % 16 ≠ 0 then none else some [UInt8.ofNat (a * 4 + b / 16)]
  | [a, b, c] =>
    if canonical ∧ c % 4 ≠ 0 then none
    else some [UInt8.ofNat (a * 4 + b / 16), UInt8.ofNat (b % 16 * 16 + c / 4)]
  | a :: b :: c :: d :: rest =>
    (octets canonical rest).map fun bytes =>
      UInt8.ofNat (a * 4 + b / 16) :: UInt8.ofNat (b % 16 * 16 + c / 4)
        :: UInt8.ofNat (c % 4 * 64 + d) :: bytes

/-- The symbols of octets, without padding. -/
def symbols (a : Alphabet) (b : Bytes) : List Char := (sextets b).map a.symbol

/-- The text of octets in the alphabet for URLs, without padding. -/
def encodeUrl (b : Bytes) : String := .ofList (symbols .url b)

/-- The octets of a text in the alphabet for URLs, without padding. -/
def decodeUrl? (s : String) : Option Bytes :=
  (s.toList.mapM Alphabet.url.value?).bind (octets true)

/-- The standard text of octets, padded to a multiple of four symbols. -/
def encodePadded (b : Bytes) : List Char :=
  let text := symbols .standard b
  text ++ List.replicate ((4 - text.length % 4) % 4) '='

/-- The octets of a padded standard text with no bits left over. -/
def decodePadded? (cs : List Char) : Option Bytes :=
  let text := cs.takeWhile (· ≠ '=')
  let padding := cs.drop text.length
  if padding = List.replicate ((4 - text.length % 4) % 4) '=' then
    (text.mapM Alphabet.standard.value?).bind (octets true)
  else none

/-- The octets of a standard text whose padding may be missing and whose last bits may be
anything. -/
def decodeRelaxed? (cs : List Char) : Option Bytes :=
  let text := cs.takeWhile (· ≠ '=')
  let padding := cs.drop text.length
  if padding = [] ∨ padding = List.replicate ((4 - text.length % 4) % 4) '=' then
    (text.mapM Alphabet.standard.value?).bind (octets false)
  else none

/-- Whether a text is not empty and has symbols for URLs only. -/
def isUrlText (s : String) : Bool :=
  !s.isEmpty && s.toList.all fun c => c.isAlphanum || c == '-' || c == '_'

end AcmeClient.Base64
