import AcmeClient.Identifier.Equality
import AcmeClient.Tracked.Basic

/-!
# Persistent proofs

A record that stays in the DNS names an issuer and the account that may use it, possibly with a
policy and a time after which the record no longer counts. Its fields are set apart by a
semicolon and a blank.
-/

namespace AcmeClient.PersistentProof

/-- The label of the records. -/
def recordLabel : String := "_validation-persist"

/-- The name of the record for a domain; a wildcard has the record of its base. -/
def recordName (i : Identifier) : Except Error String := do
  let domain := DomainName.withoutDots (DomainName.base (← i.domain).toList)
  let ascii ← DomainName.toAscii (.ofList domain)
  return recordLabel ++ "." ++ ascii ++ "."

/-- The name of an issuer in lowercase ASCII, without a full stop at its end. -/
def issuerName (name : String) : Except Error String :=
  let trimmed := Text.trimChars name.toList
  let name := (DomainName.splitDot trimmed).1
  if name = [] then .error (.invalidArgument .emptyIssuer)
  else DomainName.toAscii (.ofList name)

/-- The fields of a record in their order. -/
def fields (issuer account : String) (policy : Option String) (until? : Option Int) : List String :=
  [issuer, "accounturi=" ++ account] ++
    ((policy.filter (· ≠ "")).map ("policy=" ++ ·)).toList ++
    (until?.map fun second =>
      "persistUntil=" ++ .ofList (Decimal.integerChars second)).toList

/-- The value of the record that lets an issuer act for an account. -/
def recordValue (issuer account : String) (policy : Option String) (until? : Option Int) :
    Except Error String := do
  return "; ".intercalate (fields (← issuerName issuer) account policy until?)

/-- The issuers that a challenge names. -/
def issuers (c : Challenge) : Except Error (List String) :=
  (c.content.issuerDomainNames.getD []).mapM fun name =>
    (issuerName name).mapError fun _ => .protocolViolation (.badIssuer c.location name)

/-- The value of the record that lets an issuer act for the account of a challenge. -/
def record (c : Challenge) (issuer : String) (policy : Option String := none)
    (until? : Option Int := none) : Except Error String :=
  recordValue issuer c.owner.location policy until?

/-- The value of the record that counts until a date. -/
def recordUntil (c : Challenge) (issuer : String) (policy : Option String) (date : Date) :
    Except Error String :=
  record c issuer policy (some date.second)

end AcmeClient.PersistentProof
