import AcmeClient.DomainName
import AcmeClient.Text.Lowercase

/-!
# Making and comparing identifiers

Two identifiers are the same if their types agree and their values do once normalized: a domain
may come back in another case, as an internationalized name or with a full stop at the end. The
ancestor plays no part.
-/

namespace AcmeClient.Identifier

/-- The identifier of a domain, which may be internationalized or a wildcard. -/
def dns (domain : String) : Except Error Identifier := do
  return { type := dnsType, value := ← DomainName.toAscii domain }

/-- The identifier of an Internet address. -/
def ip (address : IpAddress) : Identifier := { type := ipType, value := address.toText }

/-- The identifier of a domain to be authorized through an ancestor. -/
def withAncestor (i : Identifier) (ancestor : String) : Except Error Identifier :=
  if i.isDns then do return { i with ancestor := some (← DomainName.toAscii ancestor) }
  else .error (.invalidArgument (.ancestorOfOther i.type))

/-- The domain that an identifier names. -/
def domain (i : Identifier) : Except Error String :=
  if i.isDns then .ok i.value else .error (.protocolViolation (.notDns i))

/-- The Internet address that an identifier names. -/
def address (i : Identifier) : Except Error IpAddress :=
  if i.isIp then
    match IpAddress.ofText? i.value with
    | some a => .ok a
    | none => .error (.protocolViolation (.badAddress i.value))
  else .error (.protocolViolation (.notIp i))

/-- Whether a character needs no normalization. -/
def isPlainChar (c : Char) : Bool :=
  c.isLower || c.isDigit || c == '-' || c == '.' || c == '*' || c == '_'

/-- The normalized form of a domain without full stops at its end. -/
def normalizeName (name : String) : String :=
  match DomainName.toAscii name with
  | .ok ascii => ascii
  | .error _ => Text.lowercase name

/-- The value that comparison looks at. -/
def normalValue (i : Identifier) : String :=
  if i.isDns then
    let name := DomainName.withoutDots i.value.toList
    if name.all isPlainChar then .ofList name else normalizeName (.ofList name)
  else i.value

/-- Whether two identifiers are the same. -/
def same (a b : Identifier) : Bool := a.type == b.type && a.normalValue == b.normalValue

/-- Whether a list has an identifier. -/
def isIn (i : Identifier) (l : List Identifier) : Bool := l.any (·.same i)

end AcmeClient.Identifier
