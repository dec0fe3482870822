import AcmeClient.Crypto.SigningKey
import AcmeClient.Encoding.Base64
import AcmeClient.Json.Value

/-!
# Public keys in JSON

A server knows an account by the coordinates of its public key. The thumbprint of a key is the
digest of its coordinates in a fixed JSON text without blanks, the members in the order of their
names.
-/

namespace AcmeClient

/-- A public key of the curve, by the octets of its coordinates. -/
structure Jwk where
  x : Bytes
  y : Bytes
  deriving DecidableEq, Repr

namespace Jwk

/-- The public key that belongs to a signing key. -/
def ofKey (key : SigningKey) : Jwk :=
  ⟨Octets.fixed 32 key.publicPoint.x, Octets.fixed 32 key.publicPoint.y⟩

/-- A member whose value is a string. -/
def member (name value : String) : String × Bytes := (name, Json.writeText value)

/-- The coordinates as members. -/
def coordinates (k : Jwk) : List (String × Bytes) :=
  [member "x" (Base64.encodeUrl k.x), member "y" (Base64.encodeUrl k.y)]

/-- A public key as requests carry it. -/
def write (k : Jwk) : Bytes :=
  Json.writeObject <|
    [member "alg" "ES256", member "crv" "P-256", member "kty" "EC", member "use" "sig"] ++
      k.coordinates

/-- The text that is digested for the thumbprint. -/
def writeEssential (k : Jwk) : Bytes :=
  Json.writeObject ([member "crv" "P-256", member "kty" "EC"] ++ k.coordinates)

/-- The thumbprint of a public key. -/
def thumbprint (k : Jwk) : String := Base64.encodeUrl (Sha256.digest k.writeEssential)

end Jwk

end AcmeClient
