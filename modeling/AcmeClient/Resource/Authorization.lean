import AcmeClient.Resource.Challenge

/-!
# Authorization objects

An authorization states whether an account controls an identifier, and the challenges that prove
it.
-/

namespace AcmeClient.Resource

/-- An authorization as a server describes it. -/
structure Authorization where
  identifier : Identifier
  status : Status := .unknown
  expires : Option String := none
  challenges : List Challenge := []
  wildcard : Option Bool := none
  subdomainAuthAllowed : Option Bool := none
  deriving DecidableEq, Repr

namespace Authorization

/-- The members of an authorization. -/
def record : Json.Record Authorization where
  blank := ⟨⟨"", "", none⟩, .unknown, none, [], none, none⟩
  members := [
    .required "identifier" Identifier.codec (·.identifier) fun x a => { a with identifier := x },
    .defaulted "status" Status.codec (·.status) fun x a => { a with status := x },
    .nullable "expires" .text (·.expires) fun x a => { a with expires := x },
    .defaulted "challenges" (.list Challenge.codec) (·.challenges)
      fun x a => { a with challenges := x },
    .nullable "wildcard" .bool (·.wildcard) fun x a => { a with wildcard := x },
    .nullable "subdomainAuthAllowed" .bool (·.subdomainAuthAllowed)
      fun x a => { a with subdomainAuthAllowed := x }]

/-- Authorizations in JSON text. -/
def codec : Json.Codec Authorization := record.codec

/-- Whether the authorization is for a wildcard domain. -/
def isWildcard (a : Authorization) : Bool := a.wildcard.getD false

/-- Whether the authorization covers subdomains. -/
def coversSubdomains (a : Authorization) : Bool := a.subdomainAuthAllowed.getD false

/-- The first challenge of a type. -/
def challenge? (a : Authorization) (type : String) : Option Challenge :=
  a.challenges.find? (·.type = type)

end Authorization

end AcmeClient.Resource
