import AcmeClient.Crypto.Hmac
import AcmeClient.Crypto.P256

/-!
# Signing with P-256

A signing key is a number below the order of the curve's generator. Signatures take their secret
number from the key and the message alone, so signing is a function. A signature is two numbers of
32 octets.
-/

namespace AcmeClient

/-- A private key. -/
structure SigningKey where
  scalar : Nat
  pos : 0 < scalar
  lt_order : scalar < P256.n
  deriving DecidableEq, Repr

/-- A signature. -/
structure Signature where
  r : Nat
  s : Nat
  deriving DecidableEq, Repr

namespace SigningKey

/-- The key with a number, if it is in range. -/
def ofNat? (k : Nat) : Option SigningKey :=
  if h : 0 < k ∧ k < P256.n then some ⟨k, h.1, h.2⟩ else none

/-- The octets of the number. -/
def octets (key : SigningKey) : Bytes := Octets.fixed 32 key.scalar

/-- The public key. -/
def publicPoint (key : SigningKey) : P256.Point := P256.multiply key.scalar P256.generator

/-- The state of the generator of secret numbers. -/
structure Generator where
  key : Bytes
  value : Bytes

/-- Mixes octets into the generator. -/
def Generator.mix (g : Generator) (octets : Bytes) : Generator :=
  let key := Hmac.digest g.key (g.value ++ octets)
  { key, value := Hmac.digest key g.value }

/-- The generator for a key and a digest. -/
def generator (key : SigningKey) (digest : Bytes) : Generator :=
  let seed := key.octets ++ Octets.fixed 32 (digest.toNat % P256.n)
  let g : Generator := ⟨List.replicate 32 0, List.replicate 32 1⟩
  (g.mix (0 :: seed)).mix (1 :: seed)

/-- The first number in range that the generator yields; the argument bounds the attempts, of
which the first fails once in 2^32 times. -/
def secretFrom : Nat → Generator → Nat
  | 0, _ => 1
  | attempts + 1, g =>
    let value := Hmac.digest g.key g.value
    let k := value.toNat
    if 0 < k ∧ k < P256.n then k else secretFrom attempts (Generator.mix { g with value } [0])

/-- The signature of a message. -/
def sign (key : SigningKey) (message : Bytes) : Signature :=
  let digest := Sha256.digest message
  let k := secretFrom 64 (key.generator digest)
  let r := (P256.multiply k P256.generator).x % P256.n
  let s := P256.inverse P256.n k * ((digest.toNat + r * key.scalar) % P256.n) % P256.n
  ⟨r, s⟩

end SigningKey

/-- The octets of a signature. -/
def Signature.octets (s : Signature) : Bytes := Octets.fixed 32 s.r ++ Octets.fixed 32 s.s

/-- A signature has 64 octets. -/
@[simp] theorem Signature.length_octets (s : Signature) : s.octets.length = 64 := by
  simp [Signature.octets]

end AcmeClient
