import AcmeClient.Client.Command

/-!
# What a client's messages say

A command determines the messages that it may send, up to their nonces: who signs them, where they
go and what they carry. Logging in signs with a key alone; everything else is signed by the owner
of the resource that it is about.
-/

namespace AcmeClient

/-- What a message says, apart from its nonce. -/
structure Draft where
  signer : Signer
  url : String
  payload : Option Bytes := none
  deriving DecidableEq, Repr

/-- The message with a nonce. -/
def Draft.sign (draft : Draft) (nonce : String) : Jws :=
  draft.signer.sign draft.url nonce draft.payload

/-- A message of an account. -/
def Credentials.draft (owner : Credentials) (url : String) (payload : Option Bytes := none) :
    Draft :=
  { signer := owner.signer, url, payload }

/-- The message that asks for the account of a key. -/
def Resource.Account.draft (wanted : Resource.Account) (key : SigningKey)
    (d : Resource.Directory) : Draft :=
  { signer := { key }, url := d.newAccount, payload := some (Resource.Account.codec.write wanted) }

/-- Whether a client that carries out a command by a directory may send a message. -/
def Client.Drafts (c : Client) (d : Resource.Directory) (draft : Draft) : Command → Prop
  | .register key contact => draft = (Session.newAccount contact).draft key d
  | .logIn pem contact => ∃ key, Session.accountKey pem = .ok key ∧
    draft = (Session.newAccount contact).draft key d
  | .logInExisting pem => ∃ key, Session.accountKey pem = .ok key ∧
    draft = Session.existingAccount.draft key d
  | .updateAccount i => ∃ a, c.accounts[i]? = some a ∧ draft = a.owner.draft a.location
  | .createOrder i request => ∃ a content, c.accounts[i]? = some a ∧
    request.payload = .ok content ∧
    draft = a.owner.draft d.newOrder (some (Resource.NewOrder.codec.write content))
  | .loadOrder i url | .loadAuthorization i url | .loadChallenge i url =>
    ∃ a, c.accounts[i]? = some a ∧ draft = a.owner.draft url
  | .updateOrder i | .awaitReady i _ | .awaitOrder i _ =>
    ∃ o, c.orders[i]? = some o ∧ draft = o.owner.draft o.location
  | .finalizeOrder i key => ∃ o der, c.orders[i]? = some o ∧
    Order.certificateRequest o key = .ok der ∧
    draft = o.owner.draft o.content.finalize
      (some (Resource.Finalization.codec.write (.ofRequest der)))
  | .downloadCertificate i _ => ∃ o url, c.orders[i]? = some o ∧
    o.content.certificateUrl? = some url ∧ draft = o.owner.draft url
  | .listAuthorizations i => ∃ o, c.orders[i]? = some o ∧ ∃ url ∈ o.content.authorizations,
    draft = o.owner.draft url
  | .updateAuthorization i | .awaitAuthorization i _ => ∃ a, c.authorizations[i]? = some a ∧
    draft = a.owner.draft a.location
  | .deactivateAuthorization i => ∃ a, c.authorizations[i]? = some a ∧
    draft = a.owner.draft a.location (some Authorization.deactivation)
  | .updateChallenge i | .awaitChallenge i _ => ∃ ch, c.challenges[i]? = some ch ∧
    draft = ch.owner.draft ch.location
  | .triggerChallenge i _ => ∃ ch, c.challenges[i]? = some ch ∧
    draft = ch.owner.draft ch.location (some Challenge.readiness)
  | .connect | .showDirectory | .refreshDirectory | .showCapabilities | .findEndpoint _
  | .findEndpointIfAny _ | .fetch _ | .resetNonce | .listChallenges _ => False

/-- The key that a command logs in with. -/
def Command.loginKey? : Command → Option SigningKey
  | .register key _ => some key
  | .logIn pem _ | .logInExisting pem => (Session.accountKey pem).toOption
  | _ => none

/-- The owner of what a command is done with: of the account, order, authorization or challenge at
its position. -/
def Client.ownerFor (c : Client) : Command → Option Credentials
  | .updateAccount i | .createOrder i _ | .loadOrder i _ | .loadAuthorization i _
  | .loadChallenge i _ => c.accounts[i]?.map (·.owner)
  | .updateOrder i | .awaitReady i _ | .awaitOrder i _ | .finalizeOrder i _
  | .downloadCertificate i _ | .listAuthorizations i => c.orders[i]?.map (·.owner)
  | .updateAuthorization i | .deactivateAuthorization i | .awaitAuthorization i _
  | .listChallenges i => c.authorizations[i]?.map (·.owner)
  | .updateChallenge i | .triggerChallenge i _ | .awaitChallenge i _ =>
    c.challenges[i]?.map (·.owner)
  | .connect | .showDirectory | .refreshDirectory | .showCapabilities | .findEndpoint _
  | .findEndpointIfAny _ | .fetch _ | .resetNonce | .register _ _ | .logIn _ _
  | .logInExisting _ => none

end AcmeClient
