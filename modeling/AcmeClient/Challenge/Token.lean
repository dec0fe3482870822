import AcmeClient.Identifier.Equality
import AcmeClient.Tracked.Basic

/-!
# Proofs by token

Some challenges carry a token. The token joined with the thumbprint of the account's key is what
proves control: it is served over HTTP, published as a digest in the DNS, or put as a digest into a
certificate.
-/

namespace AcmeClient

/-- A challenge with its token, which is fit for URLs. -/
structure TokenProof where
  challenge : Challenge
  token : String
  deriving DecidableEq, Repr

namespace TokenProof

/-- The challenge with its token. -/
def ofChallenge (c : Challenge) : Except Error TokenProof :=
  match c.content.token with
  | none => .error (.protocolViolation (.noToken c.location))
  | some token =>
    if Base64.isUrlText token then .ok ⟨c, token⟩
    else .error (.protocolViolation (.badToken c.location token))

/-- The token joined with the thumbprint of the account's key. -/
def authorization (p : TokenProof) : String :=
  p.token ++ "." ++ (Jwk.ofKey p.challenge.owner.key).thumbprint

/-- The digest of the authorization. -/
def validation (p : TokenProof) : Bytes := Sha256.digest (Utf8.encode p.authorization)

/-- The digest of the authorization as text, which is published in the DNS. -/
def digest (p : TokenProof) : String := Base64.encodeUrl p.validation

/-- The label of records with a digest. -/
def recordLabel : String := "_acme-challenge"

/-- The name of the record with the digest. -/
def recordName (i : Identifier) : Except Error String := do
  let domain := DomainName.withoutDots (DomainName.base (← i.domain).toList)
  return recordLabel ++ "." ++ .ofList domain ++ "."

end TokenProof

end AcmeClient
