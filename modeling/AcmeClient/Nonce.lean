/-!
# The nonce of a session

A session keeps the last nonce that the server handed out. A holder of the lock has the slot for
itself: it may take the nonce out, so that no other request uses it, and put a new one in.
-/

namespace AcmeClient

/-- The slot for a nonce, and whether somebody holds its lock. -/
structure NonceStore where
  nonce : Option String := none
  isLocked : Bool := false
  deriving DecidableEq, Repr

namespace NonceStore

/-- A copy of the nonce, unless somebody else holds the lock. -/
def get? (s : NonceStore) : Option (Option String) := if s.isLocked then none else some s.nonce

/-- Replaces the nonce. -/
def set (s : NonceStore) (nonce : Option String) : NonceStore := { s with nonce }

/-- Acquires the lock. -/
def lock (s : NonceStore) : NonceStore := { s with isLocked := true }

/-- Releases the lock. -/
def unlock (s : NonceStore) : NonceStore := { s with isLocked := false }

/-- Takes the nonce out of the slot. -/
def take (s : NonceStore) : Option String × NonceStore := (s.nonce, { s with nonce := none })

/-- After taking, the slot is empty. -/
@[simp] theorem nonce_take (s : NonceStore) : s.take.2.nonce = none := rfl

end NonceStore

end AcmeClient
