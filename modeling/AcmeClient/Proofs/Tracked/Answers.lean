import AcmeClient.Client.Command
import AcmeClient.Proofs.Effects

/-!
# What answers do to tracked resources

An operation that refreshes a resource sends one message and takes over the answer. It may fail
before the message, with it, or with the answer; in each case the resource stays as it was.
-/

namespace AcmeClient

open Attempt

namespace Tracked

variable [Described α] (t : Tracked α) (s : Session)

/-- What an answer makes of a resource: owner and location stay. -/
def answered (response : Http.Response) : Except Error (Tracked α) := do
  let answer ← response.decode (Described.codec (α := α))
  let content ← Described.accept t.location t.content answer
  return { t with content }

/-- How taking over an answer ends: with a value, or with an error and the resource as it was. -/
def settle (response : Http.Response) (value : β) : Except Error β × Session × Tracked α :=
  match t.answered response with
  | .ok t' => (.ok value, s, t')
  | .error e => (.error e, s, t)

/-- Taking over an answer does not touch the session. -/
theorem run_adopt (response : Http.Response) :
    (adopt response).run (s, t) = t.settle s response () := by
  unfold adopt settle answered
  rw [run_bind, run_lift]
  cases response.decode (Described.codec (α := α)) with
  | error e => rfl
  | ok answer =>
    dsimp only
    rw [run_bind, run_get]
    dsimp only
    rw [run_bind, run_lift]
    cases h : Described.accept t.location t.content answer with
    | error e => simp [bind, Except.bind, h]
    | ok content => simp [bind, Except.bind, h, pure, Except.pure]

/-- How an operation on a resource ends after the message that it sends: with the failure of the
message, or by taking over the answer. -/
def conclude (sent : Except Error Http.Response × Session)
    (value : Http.Response → Session → β) : Except Error β × Session × Tracked α :=
  match sent with
  | (.ok response, s) => t.settle s response (value response s)
  | (.error e, s) => (.error e, s, t)

/-- The session is left as the message leaves it. -/
@[simp] theorem session_conclude (sent : Except Error Http.Response × Session)
    (value : Http.Response → Session → β) : (t.conclude sent value).2.1 = sent.2 := by
  rcases sent with ⟨e | response, s⟩
  · rfl
  · unfold conclude settle
    dsimp only
    cases t.answered response <;> rfl

/-- An update asks for the resource and takes over the answer. -/
theorem run_update :
    update.run (s, t) = t.conclude ((Session.send t.location none t.owner.signer).run s)
      fun response s' => response.retryAfter? s'.clock := by
  unfold update inSession
  rw [run_bind, run_get]
  dsimp only
  rw [run_bind, run_within]
  dsimp only
  rcases (Session.send t.location none t.owner.signer).run s with ⟨e | response, s'⟩
  · rfl
  · dsimp only
    rw [run_bind, run_adopt]
    unfold conclude settle
    dsimp only
    cases t.answered response <;> rfl

/-- A submission sends a message and takes over the answer. -/
theorem run_submit (url : String) (payload : Bytes) :
    (submit url payload).run (s, t) =
      t.conclude ((Session.send url (some payload) t.owner.signer).run s) fun _ _ => () := by
  unfold submit inSession
  rw [run_bind, run_get]
  dsimp only
  rw [run_bind, run_within]
  dsimp only
  rcases (Session.send url (some payload) t.owner.signer).run s with ⟨e | response, s'⟩
  · rfl
  · exact run_adopt t s' response

end Tracked

/-- An order is finalized by submitting a request for its certificate, unless it cannot be. -/
theorem Order.run_finalize (key : SigningKey) (s : Session) (order : Order) :
    (∃ e, (Order.finalize key).run (s, order) = (.error e, s, order)) ∨
    ∃ der, certificateRequest order key = .ok der ∧ (Order.finalize key).run (s, order) =
      (Tracked.submit order.content.finalize
        (Resource.Finalization.codec.write (.ofRequest der))).run (s, order) := by
  unfold Order.finalize
  rw [run_bind, run_get]
  dsimp only
  by_cases hurl : order.content.finalize = ""
  · left
    rw [if_pos hurl]
    exact ⟨_, rfl⟩
  · rw [if_neg hurl, run_bind, run_lift]
    cases Order.certificateRequest order key with
    | error e => exact Or.inl ⟨e, rfl⟩
    | ok der => exact Or.inr ⟨der, rfl, rfl⟩

/-- An authorization is given up by a submission. -/
theorem Authorization.run_deactivate (s : Session) (a : Authorization) :
    deactivate.run (s, a) = (Tracked.submit a.location deactivation).run (s, a) := by
  unfold deactivate
  rw [run_bind, run_get]

/-- A challenge is triggered by a submission, unless what was found is not of the kind. -/
theorem Client.run_triggerAs (found : Challenge) (kind : Option ChallengeKind) (s : Session)
    (ch : Challenge) :
    (∃ e, (triggerAs found kind).run (s, ch) = (.error e, s, ch)) ∨
    (triggerAs found kind).run (s, ch) =
      (Tracked.submit ch.location Challenge.readiness).run (s, ch) := by
  cases kind with
  | none => exact Or.inr rfl
  | some k =>
    unfold triggerAs
    dsimp only
    rw [run_bind, run_lift]
    cases k.wrap found with
    | error e => exact Or.inl ⟨e, rfl⟩
    | ok typed => exact Or.inr rfl

end AcmeClient
