import AcmeClient.Challenge.Token

/-!
# Kinds of challenges

A challenge of a known type can be taken as one of its kind; most kinds need a token. Which kinds
are looked for, and in which order, is given by a list. A challenge of any other type stays
generic.
-/

namespace AcmeClient

/-- A known kind of challenge. -/
inductive ChallengeKind where
  | http01
  | dns01
  | tlsAlpn01
  | dnsPersist01
  deriving DecidableEq, Repr

/-- A challenge as one of its kind, or a generic one. -/
inductive TypedChallenge where
  | http01 (proof : TokenProof)
  | dns01 (proof : TokenProof)
  | tlsAlpn01 (proof : TokenProof)
  | dnsPersist01 (challenge : Challenge)
  | generic (challenge : Challenge)
  deriving DecidableEq, Repr

namespace TypedChallenge

/-- The challenge itself. -/
def challenge : TypedChallenge → Challenge
  | http01 p | dns01 p | tlsAlpn01 p => p.challenge
  | dnsPersist01 c | generic c => c

/-- The kind of the challenge. -/
def kind? : TypedChallenge → Option ChallengeKind
  | http01 _ => some .http01
  | dns01 _ => some .dns01
  | tlsAlpn01 _ => some .tlsAlpn01
  | dnsPersist01 _ => some .dnsPersist01
  | generic _ => none

end TypedChallenge

namespace ChallengeKind

/-- The known kinds in the order in which they are tried. -/
def all : List ChallengeKind := [http01, dns01, tlsAlpn01, dnsPersist01]

/-- The type of challenges of a kind. -/
def type : ChallengeKind → String
  | http01 => "http-01"
  | dns01 => "dns-01"
  | tlsAlpn01 => "tls-alpn-01"
  | dnsPersist01 => "dns-persist-01"

/-- The kind of challenges of a type. -/
def ofType? (type : String) : Option ChallengeKind := all.find? (·.type = type)

/-- Every kind is found by its type. -/
@[simp] theorem ofType?_type (k : ChallengeKind) : ofType? k.type = some k := by
  cases k <;> decide

/-- The challenge as one of a kind. -/
def wrap (k : ChallengeKind) (c : Challenge) : Except Error TypedChallenge :=
  match k with
  | http01 => (TokenProof.ofChallenge c).map .http01
  | dns01 => (TokenProof.ofChallenge c).map .dns01
  | tlsAlpn01 => (TokenProof.ofChallenge c).map .tlsAlpn01
  | dnsPersist01 => .ok (.dnsPersist01 c)

/-- The challenge as one of the first kind in a list that has its type, if there is one. -/
def wrapFirst (kinds : List ChallengeKind) (c : Challenge) : Except Error (Option TypedChallenge) :=
  match kinds.find? (·.type = c.content.type) with
  | none => .ok none
  | some k => (k.wrap c).map some

end ChallengeKind

end AcmeClient
