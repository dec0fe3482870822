import AcmeClient.Status

/-!
# Account objects

What a server keeps about an account, and what a client sends to create or find one.
-/

namespace AcmeClient.Resource

/-- An account as a server describes it. -/
structure Account where
  status : Option Status := none
  contact : Option (List String) := none
  externalAccountBinding : Option Json.Value := none
  termsOfServiceAgreed : Option Bool := none
  onlyReturnExisting : Option Bool := none
  orders : Option String := none
  deriving Repr

namespace Account

/-- The members of an account. -/
def record : Json.Record Account where
  blank := {}
  members := [
    .optional "status" Status.codec (·.status) fun x a => { a with status := x },
    .optional "contact" (.list .text) (·.contact) fun x a => { a with contact := x },
    .optional "externalAccountBinding" .value (·.externalAccountBinding)
      fun x a => { a with externalAccountBinding := x },
    .optional "termsOfServiceAgreed" .bool (·.termsOfServiceAgreed)
      fun x a => { a with termsOfServiceAgreed := x },
    .optional "onlyReturnExisting" .bool (·.onlyReturnExisting)
      fun x a => { a with onlyReturnExisting := x },
    .optional "orders" .text (·.orders) fun x a => { a with orders := x }]

/-- Accounts in JSON text. -/
def codec : Json.Codec Account := record.codec

/-- Whether the terms of service were agreed to. -/
def agreedToTerms (a : Account) : Bool := a.termsOfServiceAgreed.getD false

end Account

end AcmeClient.Resource
