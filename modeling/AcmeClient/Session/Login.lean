import AcmeClient.Tracked.Basic
import AcmeClient.X509.PrivateKey

/-!
# Accounts

An account belongs to a key. The server is told the public key and answers with the URL of the
account, by which later messages name the key; it creates the account if there is none, unless
only an existing one is asked for.
-/

namespace AcmeClient.Session

/-- The account of a key, as asked for. -/
def account (key : SigningKey) (wanted : Resource.Account) : Action Account := do
  let url ← endpoint .newAccount
  let response ← send url (some (Resource.Account.codec.write wanted)) { key }
  let location ← response.location
  let content ← response.decode Resource.Account.codec
  return { owner := { key, location }, location, content }

/-- The key in a PEM text. -/
def accountKey (pem : String) : Except Error SigningKey :=
  match SigningKey.ofPem? pem with
  | some key => .ok key
  | none => .error (.credential .accountKey)

/-- What is asked for to create an account. -/
def newAccount (contact : Option (List String)) : Resource.Account :=
  { contact, termsOfServiceAgreed := some true }

/-- What is asked for to find an account. -/
def existingAccount : Resource.Account := { onlyReturnExisting := some true }

/-- Creates an account for a new key. -/
def register (key : SigningKey) (contact : Option (List String)) : Action Account :=
  account key (newAccount contact)

/-- The account of a key in a PEM text, created if there is none. -/
def logIn (pem : String) (contact : Option (List String)) : Action Account := do
  let key ← accountKey pem
  account key (newAccount contact)

/-- The account of a key in a PEM text, which must exist. -/
def logInExisting (pem : String) : Action Account := do
  let key ← accountKey pem
  account key existingAccount

end AcmeClient.Session
