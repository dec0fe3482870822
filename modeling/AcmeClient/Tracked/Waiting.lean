import AcmeClient.Poll.Basic
import AcmeClient.Tracked.Basic

/-!
# Waiting for tracked resources

Orders, authorizations and challenges have a state, and a client waits for some of its values. A
poll that succeeds takes a reply off the wire, so the replies to come bound the polls.
-/

namespace AcmeClient

/-- A kind of resource that has a state. -/
class Staged (α : Type) where
  status : α → Status

instance : Staged Resource.Order := ⟨(·.status)⟩

instance : Staged Resource.Authorization := ⟨(·.status)⟩

instance : Staged Resource.Challenge := ⟨(·.status)⟩

namespace Tracked

/-- The state of a resource. -/
def status [Staged α] (t : Tracked α) : Status := Staged.status t.content

/-- A tracked resource can be polled in a session. -/
def pollable (α : Type) [Described α] [Staged α] : Pollable (Session × Tracked α) where
  update := update
  status st := st.2.status
  location st := st.2.location
  clock st := st.1.clock
  sleep d st := (st.1.sleep d, st.2)

/-- Waits for a state. When all replies are used up the wire brings no other. -/
def await [Described α] [Staged α] (done : Status → Bool) (policy : RetryPolicy) :
    Tracking α Status := do
  let (s, _) ← get
  match ← (pollable α).poll done policy (s.wire.replies.length + 1) with
  | some status => return status
  | none => throw .network

/-- Waits for a state that the server will not change any more. -/
def awaitFinal [Described α] [Staged α] (policy : RetryPolicy) : Tracking α Status :=
  await (·.isFinal) policy

end Tracked

end AcmeClient
