import AcmeClient.Error

/-!
# Domain names

A domain name is brought into lowercase ASCII. A wildcard label in front and a full stop at the
end are set aside and put back.
-/

namespace AcmeClient.DomainName

/-- The label of wildcards with its full stop. -/
def wildcard : List Char := ['*', '.']

/-- The wildcard label, if there is one, and the rest. -/
def splitWildcard (cs : List Char) : List Char × List Char :=
  match Text.after? wildcard cs with
  | some rest => (wildcard, rest)
  | none => ([], cs)

/-- The name without the full stop at its end, and that full stop. -/
def splitDot (cs : List Char) : List Char × List Char :=
  match Text.beforeLast? '.' cs with
  | some rest => (rest, ['.'])
  | none => (cs, [])

/-- The name in lowercase ASCII. -/
def toAscii (s : String) : Except Error String := do
  let trimmed := Text.trimChars s.toList
  let (front, rest) := splitWildcard trimmed
  let (name, dot) := splitDot rest
  match Url.Host.ofChars name with
  | .ok (.domain ascii) => .ok (.ofList (front ++ ascii.toList ++ dot))
  | .ok (.address _) => .error (.invalidArgument (.addressAsDomain (.ofList trimmed)))
  | .error fault => .error (.invalidArgument (.badDomain (.ofList trimmed) fault))

/-- The name without full stops at its end. -/
def withoutDots (cs : List Char) : List Char := Text.dropEndWhile (· = '.') cs

/-- The name without a wildcard label in front. -/
def base (cs : List Char) : List Char := (splitWildcard cs).2

end AcmeClient.DomainName
