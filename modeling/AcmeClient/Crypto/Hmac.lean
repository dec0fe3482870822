import AcmeClient.Crypto.Sha256

/-!
# Keyed digests

The digest of a message under a key: the key, filled to a block, is mixed with two constants and
stands in front of the message and of the inner digest.
-/

namespace AcmeClient.Hmac

/-- A key as a block. -/
def keyBlock (key : Bytes) : Bytes :=
  let key := if 64 < key.length then Sha256.digest key else key
  key ++ List.replicate (64 - key.length) 0

/-- The digest of a message under a key. -/
def digest (key message : Bytes) : Bytes :=
  let block := keyBlock key
  let inner := Sha256.digest (block.map (· ^^^ 0x36) ++ message)
  Sha256.digest (block.map (· ^^^ 0x5C) ++ inner)

/-- A keyed digest has 32 octets. -/
@[simp] theorem length_digest (key message : Bytes) : (digest key message).length = 32 := by
  simp [digest]

end AcmeClient.Hmac
