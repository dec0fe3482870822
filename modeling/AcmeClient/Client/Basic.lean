import AcmeClient.Challenge.Basic
import AcmeClient.Order.Basic
import AcmeClient.Session.Login

/-!
# Clients

A client is a session together with the resources that it works on: any number of accounts, orders,
authorizations and challenges, and the certificates that it has got. Each resource keeps its
position, and work on one of them leaves the others alone.
-/

namespace AcmeClient

/-- A session and the resources that are worked on in it. -/
structure Client where
  session : Session
  accounts : List Account := []
  orders : List Order := []
  authorizations : List Authorization := []
  challenges : List Challenge := []
  certificates : List CertificateBundle := []

/-- A resource that work needs and a client does not have. -/
inductive Need where
  | account
  | order
  | authorization
  | challenge
  deriving DecidableEq, Repr

/-- The resource at a position, or what is needed there. -/
def Need.orAt (need : Need) (l : List α) (i : Nat) : Except Need α :=
  match l[i]? with
  | some x => .ok x
  | none => .error need

/-- The resource that is found is the one at the position. -/
theorem Need.orAt_eq_ok_iff {need : Need} {l : List α} {i : Nat} {x : α} :
    need.orAt l i = .ok x ↔ l[i]? = some x := by
  unfold orAt
  cases l[i]? <;> simp

namespace Client

/-- One of the accounts. -/
def accountAt (c : Client) (i : Nat) : Except Need Account := Need.account.orAt c.accounts i

/-- One of the orders. -/
def orderAt (c : Client) (i : Nat) : Except Need Order := Need.order.orAt c.orders i

/-- One of the authorizations. -/
def authorizationAt (c : Client) (i : Nat) : Except Need Authorization :=
  Need.authorization.orAt c.authorizations i

/-- One of the challenges. -/
def challengeAt (c : Client) (i : Nat) : Except Need Challenge :=
  Need.challenge.orAt c.challenges i

/-- Work in the session alone. -/
def inSession (a : Action α) : Attempt Client α :=
  .within (·.session) (fun session c => { c with session }) a

/-- Work on one of the accounts. -/
def onAccount (i : Nat) (account : Account) (work : Tracking Resource.Account α) :
    Attempt Client α :=
  .within (fun c => (c.session, account))
    (fun (session, a) c => { c with session, accounts := c.accounts.set i a }) work

/-- Work on one of the orders. -/
def onOrder (i : Nat) (order : Order) (work : Tracking Resource.Order α) : Attempt Client α :=
  .within (fun c => (c.session, order))
    (fun (session, o) c => { c with session, orders := c.orders.set i o }) work

/-- Work on one of the authorizations. -/
def onAuthorization (i : Nat) (a : Authorization) (work : Tracking Resource.Authorization α) :
    Attempt Client α :=
  .within (fun c => (c.session, a))
    (fun (session, a) c => { c with session, authorizations := c.authorizations.set i a }) work

/-- Work on one of the challenges. -/
def onChallenge (i : Nat) (ch : Challenge) (work : Tracking Resource.Challenge α) :
    Attempt Client α :=
  .within (fun c => (c.session, ch))
    (fun (session, ch) c => { c with session, challenges := c.challenges.set i ch }) work

end Client

end AcmeClient
