import AcmeClient.Json.Codec
import AcmeClient.Text.Quoted

/-!
# Identifiers

An identifier names what a certificate is issued for: a domain or an Internet address. A domain
may be authorized through one of its ancestors.
-/

namespace AcmeClient

/-- What a certificate can be issued for. -/
structure Identifier where
  type : String
  value : String
  ancestor : Option String := none
  deriving DecidableEq, Repr

namespace Identifier

/-- The type of domains. -/
def dnsType : String := "dns"

/-- The type of Internet addresses. -/
def ipType : String := "ip"

/-- Whether an identifier names a domain. -/
def isDns (i : Identifier) : Bool := i.type == dnsType

/-- Whether an identifier names an Internet address. -/
def isIp (i : Identifier) : Bool := i.type == ipType

/-- The members of an identifier. -/
def record : Json.Record Identifier where
  blank := ⟨"", "", none⟩
  members := [
    .required "type" .text (·.type) fun x i => { i with type := x },
    .required "value" .text (·.value) fun x i => { i with value := x },
    .optional "ancestorDomain" .text (·.ancestor) fun x i => { i with ancestor := x }]

/-- Identifiers in JSON text. -/
def codec : Json.Codec Identifier := record.codec

/-- An identifier as messages show it. -/
def shown (i : Identifier) : String :=
  "Identifier \x7b _type: " ++ Text.quoted i.type ++ ", value: " ++ Text.quoted i.value ++
    ", ancestor_domain: " ++ Text.quotedOption i.ancestor ++ " \x7d"

/-- Identifiers as messages show them. -/
def shownList (l : List Identifier) : String :=
  "[" ++ String.intercalate ", " (l.map shown) ++ "]"

end Identifier

end AcmeClient
