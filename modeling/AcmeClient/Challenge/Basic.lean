import AcmeClient.Challenge.Kind
import AcmeClient.Tracked.Waiting

/-!
# Authorizations and challenges

An authorization lists challenges. They can be looked up by type, by kind, or all be taken as what
they are. Triggering a challenge tells the server that the proof is in place.
-/

namespace AcmeClient

namespace Authorization

/-- Whether control over the identifier must still be proved. -/
def needsChallenge (a : Authorization) : Bool := a.content.status != .valid

/-- A challenge of an authorization. -/
def tracked (a : Authorization) (c : Resource.Challenge) : Challenge :=
  { owner := a.owner, location := c.url, content := c }

/-- All challenges in the server's order. -/
def challenges (a : Authorization) : List Challenge := a.content.challenges.map (tracked a)

/-- The first challenge of a type. -/
def find? (a : Authorization) (type : String) : Option Challenge :=
  (a.content.challenge? type).map (tracked a)

/-- The first challenge of a kind. -/
def findKind (a : Authorization) (k : ChallengeKind) : Except Error (Option TypedChallenge) :=
  match a.content.challenges.find? (·.type = k.type) with
  | none => .ok none
  | some c => (k.wrap (tracked a c)).map some

/-- A challenge as one of its kind, or as a generic one. -/
def typed (c : Challenge) : Except Error TypedChallenge := do
  return (← ChallengeKind.wrapFirst ChallengeKind.all c).getD (.generic c)

/-- All challenges as what they are. -/
def typedChallenges (a : Authorization) : Except Error (List TypedChallenge) :=
  a.challenges.mapM typed

/-- What is sent to give up an authorization. -/
def deactivation : Bytes :=
  Json.writeObject [("status", Json.writeText Status.deactivated.name)]

/-- Gives up the authorization. -/
def deactivate : Tracking Resource.Authorization Unit := do
  let (_, a) ← get
  Tracked.submit a.location deactivation

end Authorization

namespace Challenge

/-- The challenge of an account at a location. -/
def load (owner : Credentials) (location : String) : Action Challenge := do
  let c : Challenge ← Tracked.load owner location
  return { c with content := { c.content with url := location } }

/-- What is sent to trigger a challenge. -/
def readiness : Bytes := Json.writeObject []

/-- Tells the server that the proof is in place. -/
def trigger : Tracking Resource.Challenge Unit := do
  let (_, c) ← get
  Tracked.submit c.location readiness

end Challenge

end AcmeClient
