import AcmeClient.Client.Basic

/-!
# Commands

Everything that a client can do with its server is a command. A command ends with an outcome, fails
with an error, or is not carried out because the client lacks a resource that it needs. A run
carries out one command after another.
-/

namespace AcmeClient

/-- Something that a client can do. The resource that it is done with is given by its position: an
account, an order, an authorization or a challenge. -/
inductive Command where
  | connect
  | showDirectory
  | refreshDirectory
  | showCapabilities
  | findEndpoint (e : Endpoint)
  | findEndpointIfAny (e : Endpoint)
  | resetNonce
  | fetch (url : String)
  | register (key : SigningKey) (contact : Option (List String))
  | logIn (pem : String) (contact : Option (List String))
  | logInExisting (pem : String)
  | updateAccount (i : Nat)
  | createOrder (i : Nat) (request : OrderRequest)
  | loadOrder (i : Nat) (url : String)
  | loadAuthorization (i : Nat) (url : String)
  | loadChallenge (i : Nat) (url : String)
  | updateOrder (i : Nat)
  | awaitReady (i : Nat) (policy : RetryPolicy)
  | awaitOrder (i : Nat) (policy : RetryPolicy)
  | finalizeOrder (i : Nat) (key : SigningKey)
  | downloadCertificate (i : Nat) (key : SigningKey)
  | listAuthorizations (i : Nat)
  | updateAuthorization (i : Nat)
  | deactivateAuthorization (i : Nat)
  | awaitAuthorization (i : Nat) (policy : RetryPolicy)
  | listChallenges (i : Nat)
  | updateChallenge (i : Nat)
  | triggerChallenge (i : Nat) (kind : Option ChallengeKind)
  | awaitChallenge (i : Nat) (policy : RetryPolicy)

/-- What a command yields; resources are found in the client afterwards. -/
inductive Outcome where
  | done
  | connector (c : Connector)
  | directory (d : CachedDirectory)
  | capabilities (c : Resource.Capabilities)
  | url (url : Option String)
  | response (r : Http.Response)
  | wait (d : Option Duration)
  | status (s : Status)

/-- How a command ends. -/
inductive Ending where
  | lacking (need : Need)
  | failed (e : Error)
  | done (outcome : Outcome)

namespace Client

/-- Remembers an account just logged into. -/
def enter (login : Action Account) : Attempt Client Outcome := do
  let account ← inSession login
  modify fun c => { c with accounts := c.accounts ++ [account] }
  return .done

/-- Remembers an order. -/
def take (action : Action Order) : Attempt Client Outcome := do
  let order ← inSession action
  modify fun c => { c with orders := c.orders ++ [order] }
  return .done

/-- Triggers a challenge as one of a kind, or as it is. -/
def triggerAs (ch : Challenge) (kind : Option ChallengeKind) : Tracking Resource.Challenge Unit := do
  match kind with
  | none => Challenge.trigger
  | some k =>
    let _ ← k.wrap ch
    Challenge.trigger

/-- What is done for a command, if the client has what is needed. -/
def work (c : Client) : Command → Except Need (Attempt Client Outcome)
  | .connect => return .connector <$> inSession Session.connect
  | .showDirectory => return .directory <$> inSession Session.currentDirectory
  | .refreshDirectory => return .directory <$> inSession Session.refreshDirectory
  | .showCapabilities => return .capabilities <$> inSession Session.capabilities
  | .findEndpoint e => return (.url ∘ some) <$> inSession (Session.endpoint e)
  | .findEndpointIfAny e => return .url <$> inSession (Session.endpoint? e)
  | .resetNonce => return (fun _ => .done) <$> inSession Session.resetNonce
  | .fetch url => return .response <$> inSession (Session.fetch url)
  | .register key contact => return enter (Session.register key contact)
  | .logIn pem contact => return enter (Session.logIn pem contact)
  | .logInExisting pem => return enter (Session.logInExisting pem)
  | .updateAccount i => do
    let account ← c.accountAt i
    return (fun _ => .done) <$> onAccount i account Tracked.update
  | .createOrder i request => do
    let account ← c.accountAt i
    return take (request.create account.owner)
  | .loadOrder i url => do
    let account ← c.accountAt i
    return take (Tracked.load account.owner url)
  | .loadAuthorization i url => do
    let account ← c.accountAt i
    return do
      let a ← inSession (Tracked.load account.owner url)
      modify fun c => { c with authorizations := c.authorizations ++ [a] }
      return .done
  | .loadChallenge i url => do
    let account ← c.accountAt i
    return do
      let ch ← inSession (Challenge.load account.owner url)
      modify fun c => { c with challenges := c.challenges ++ [ch] }
      return .done
  | .updateOrder i => do
    let order ← c.orderAt i
    return .wait <$> onOrder i order Tracked.update
  | .awaitReady i policy => do
    let order ← c.orderAt i
    return .status <$> onOrder i order (Order.awaitReady policy)
  | .awaitOrder i policy => do
    let order ← c.orderAt i
    return .status <$> onOrder i order (Tracked.awaitFinal policy)
  | .finalizeOrder i key => do
    let order ← c.orderAt i
    return (fun _ => .done) <$> onOrder i order (Order.finalize key)
  | .downloadCertificate i key => do
    let order ← c.orderAt i
    return do
      let certificate ← inSession (Order.download order key)
      modify fun c => { c with certificates := c.certificates ++ [certificate] }
      return .done
  | .listAuthorizations i => do
    let order ← c.orderAt i
    return do
      let found ← inSession (Order.authorizations order)
      modify fun c => { c with authorizations := c.authorizations ++ found }
      return .done
  | .updateAuthorization i => do
    let a ← c.authorizationAt i
    return .wait <$> onAuthorization i a Tracked.update
  | .deactivateAuthorization i => do
    let a ← c.authorizationAt i
    return (fun _ => .done) <$> onAuthorization i a Authorization.deactivate
  | .awaitAuthorization i policy => do
    let a ← c.authorizationAt i
    return .status <$> onAuthorization i a (Tracked.awaitFinal policy)
  | .listChallenges i => do
    let a ← c.authorizationAt i
    return do
      modify fun c => { c with challenges := c.challenges ++ Authorization.challenges a }
      return .done
  | .updateChallenge i => do
    let ch ← c.challengeAt i
    return .wait <$> onChallenge i ch Tracked.update
  | .triggerChallenge i kind => do
    let ch ← c.challengeAt i
    return (fun _ => .done) <$> onChallenge i ch (triggerAs ch kind)
  | .awaitChallenge i policy => do
    let ch ← c.challengeAt i
    return .status <$> onChallenge i ch (Tracked.awaitFinal policy)

/-- Carries out a command. -/
def perform (c : Client) (command : Command) : Ending × Client :=
  match c.work command with
  | .error need => (.lacking need, c)
  | .ok work =>
    match work.run c with
    | (.ok outcome, c) => (.done outcome, c)
    | (.error e, c) => (.failed e, c)

/-- The client after some commands. -/
def after (c : Client) (commands : List Command) : Client :=
  commands.foldl (fun c command => (c.perform command).2) c

end Client

end AcmeClient
