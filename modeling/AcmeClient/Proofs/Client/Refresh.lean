import AcmeClient.Proofs.Client.Messages
import AcmeClient.Proofs.Session.Retry

/-!
# Refreshing resources

Refreshing a resource replaces what is known about it by what the server answers, or changes
nothing. Either way it stays where it is, belongs to the same account, and no other resource is
touched.
-/

namespace AcmeClient

open Attempt Http

namespace Round

/-- A round whose message went out ends with it. -/
theorem exchanges_of_post {r : Round} {e : Exchange} (h : e ∈ r.post) :
    r.exchanges = r.head.toList ++ [e] := by
  rw [exchanges, Option.mem_def.mp h]
  rfl

/-- A round that ends with a success brought it as the reply to its message. -/
theorem result_eq_ok {nonceUrl url : String} {r : Round} {x : Response}
    (h : r.result nonceUrl url = .ok x) :
    ∃ e ∈ r.post, ∃ reply, e.reply = some reply ∧ reply.status.isSuccess = true ∧
      x = ⟨url, reply⟩ := by
  obtain ⟨y, hy, hsuccess⟩ := bind_eq_ok h
  obtain ⟨e, he, reply, hreply, rfl⟩ := response_eq_ok_iff.mp hy
  obtain ⟨rfl, hstatus⟩ := Response.success_eq_ok hsuccess
  exact ⟨e, he, reply, hreply, hstatus, rfl⟩

end Round

namespace Session

/-- Whether a session has gone on to receive a response: a success, and the answer to the message
that was sent last. -/
def Receives (s : Session) (x : Response) (t : Session) : Prop :=
  ∃ sent request, t.wire.exchanges = s.wire.exchanges ++ sent ++ [⟨request, some x.reply⟩] ∧
    request.method = .post ∧ address? x.url = some request.url ∧ x.reply.status.isSuccess = true

/-- Once the place for nonces is known, sending a message starts with its first round. -/
theorem run_sendSigned_of_endpoint {c : Connector} {url nonceUrl : String} {payload : Option Bytes}
    {signer : Signer} {s t : Session} (h : (endpoint .newNonce).run s = (.ok nonceUrl, t)) :
    (sendSigned c url payload signer).run s = (sendSigned c url payload signer).run t := by
  obtain ⟨d, hd, rfl⟩ := endpoint_newNonce_eq_ok h
  unfold sendSigned
  rw [run_bind, h, run_bind, run_endpoint _ t hd rfl]

/-- A message that ends with a success has received it. -/
theorem receives_of_sendSigned_eq_ok {c : Connector} {url : String} {payload : Option Bytes}
    {signer : Signer} {s t : Session} {x : Response} {d : CachedDirectory}
    (hd : s.directory = some d)
    (h : (sendSigned c url payload signer).run s = (.ok x, t)) : x.url = url ∧ s.Receives x t := by
  obtain ⟨first, second, wire, hdelivery, hwire, hrun⟩ := run_sendSigned c url payload signer s hd
  rcases hrun with ⟨hrefused, hrun⟩ | ⟨hkept, hrun⟩
  · obtain ⟨hresult, rfl⟩ := Prod.mk.inj (hrun.symm.trans h)
    obtain ⟨⟨request, _⟩, he, reply, rfl, hstatus, rfl⟩ := Round.result_eq_ok hresult
    obtain ⟨address, nonce, haddress, _, rfl⟩ :=
      (hdelivery.second_sends hrefused).post_request _ he
    let request := c.request .post address {} (some (signer.sign url nonce payload))
    refine ⟨rfl, first.exchanges ++ second.head.toList, request, ?_, rfl, haddress, hstatus⟩
    rw [wire_afterRound, hwire, Round.exchanges_of_post he]
    simp only [List.append_assoc, request]
  · obtain ⟨hresult, rfl⟩ := Prod.mk.inj (hrun.symm.trans h)
    obtain ⟨⟨request, _⟩, he, reply, rfl, hstatus, rfl⟩ := Round.result_eq_ok hresult
    obtain ⟨address, nonce, haddress, _, rfl⟩ := hdelivery.first_sends.post_request _ he
    let request := c.request .post address {} (some (signer.sign url nonce payload))
    refine ⟨rfl, first.head.toList, request, ?_, rfl, haddress, hstatus⟩
    rw [wire_afterRound, hwire, hdelivery.second_empty hkept, Round.exchanges_of_post he]
    simp [Round.exchanges, request]

/-- What was received later was received. -/
theorem Receives.of_posts {M : Resource.Directory → Draft → Prop} {s t u : Session} {x : Response}
    (h : t.Receives x u) (hs : s.Posts M t) : s.Receives x u := by
  obtain ⟨sent, hs, _⟩ := hs.exchanges
  obtain ⟨sent', request, hu, h⟩ := h
  exact ⟨sent ++ sent', request, by rw [hu, hs]; simp only [List.append_assoc], h⟩

/-- A message sent through a connector of its own has received the success it ends with. -/
theorem receives_of_send_eq_ok {url : String} {payload : Option Bytes} {signer : Signer}
    {s t : Session} {x : Response} (h : (send url payload signer).run s = (.ok x, t)) :
    x.url = url ∧ s.Receives x t := by
  obtain ⟨c, u, hc, h⟩ := run_bind_eq_ok h
  obtain ⟨nonceUrl, v, hv, _⟩ := run_bind_eq_ok h
  obtain ⟨d, hd, _⟩ := endpoint_newNonce_eq_ok hv
  rw [run_sendSigned_of_endpoint hv] at h
  obtain ⟨hurl, hreceives⟩ := receives_of_sendSigned_eq_ok hd h
  have hreading := (Posts.discipline fun _ _ => True).toReading
  have hu := hreading.connecting.of_run hc
  have huv := (hreading.endpoint .newNonce).of_run hv
  exact ⟨hurl, hreceives.of_posts (hu.trans huv)⟩

end Session

namespace Tracked

variable [Described α]

/-- How refreshing a resource by a message to a URL may end: it stays as it was, or takes over the
answer that was received last. -/
inductive Settles (s : Session) (t : Tracked α) (url : String) :
    Except Error β × Session × Tracked α → Prop
  | kept (e : Error) (s' : Session) : Settles s t url (.error e, s', t)
  | replaced (v : β) (s' : Session) (x : Response) (answer content : α) (at_url : x.url = url)
      (received : s.Receives x s')
      (decoded : Described.codec.decode x.reply.body = .ok answer)
      (accepted : Described.accept t.location t.content answer = .ok content) :
      Settles s t url (.ok v, s', { t with content })

variable {s s' : Session} {t : Tracked α}

/-- An answer that was received is taken over or changes nothing. -/
theorem settles_settle {x : Response} (value : β) (h : s.Receives x s') :
    Settles s t x.url (t.settle s' x value) := by
  unfold settle
  cases ht : t.answered x with
  | error e => exact .kept e s'
  | ok t' =>
    obtain ⟨answer, hanswer, ht⟩ := bind_eq_ok ht
    obtain ⟨content, haccept, ht⟩ := bind_eq_ok ht
    cases ht
    exact .replaced value s' x answer content rfl h (Response.decode_eq_ok hanswer) haccept

/-- An operation that sends a message takes over the answer or changes nothing. -/
theorem settles_conclude (url : String) (payload : Option Bytes)
    (value : Response → Session → β) :
    Settles s t url (t.conclude ((Session.send url payload t.owner.signer).run s) value) := by
  rcases h : (Session.send url payload t.owner.signer).run s with ⟨e | x, s'⟩
  · exact .kept e s'
  · obtain ⟨rfl, hreceives⟩ := Session.receives_of_send_eq_ok h
    exact settles_settle _ hreceives

/-- An update takes over the answer or changes nothing. -/
theorem settles_update : Settles s t t.location (update.run (s, t)) := by
  rw [run_update]
  exact settles_conclude t.location none _

/-- A submission takes over the answer or changes nothing. -/
theorem settles_submit (url : String) (payload : Bytes) :
    Settles s t url ((submit url payload).run (s, t)) := by
  rw [run_submit]
  exact settles_conclude url (some payload) _

/-- Finalizing an order takes over the answer or changes nothing. -/
theorem settles_finalize (key : SigningKey) (order : Order) :
    Settles s order order.content.finalize ((Order.finalize key).run (s, order)) := by
  rcases Order.run_finalize key s order with ⟨e, h⟩ | ⟨der, _, h⟩
  · rw [h]
    exact .kept e s
  · rw [h]
    exact settles_submit order.content.finalize _

/-- Giving up an authorization takes over the answer or changes nothing. -/
theorem settles_deactivate {a : Authorization} :
    Settles s a a.location (Authorization.deactivate.run (s, a)) := by
  rw [Authorization.run_deactivate]
  exact settles_submit a.location Authorization.deactivation

/-- Triggering a challenge takes over the answer or changes nothing. -/
theorem settles_triggerAs (kind : Option ChallengeKind) (ch : Challenge) :
    Settles s ch ch.location ((Client.triggerAs ch kind).run (s, ch)) := by
  rcases Client.run_triggerAs ch kind s ch with ⟨e, h⟩ | h
  · rw [h]
    exact .kept e s
  · rw [h]
    exact settles_submit ch.location Challenge.readiness

end Tracked

/-- Something that refreshes a resource of a client. -/
inductive Refresh where
  | account (i : Nat)
  | order (i : Nat)
  | finalization (i : Nat) (key : SigningKey)
  | authorization (i : Nat)
  | deactivation (i : Nat)
  | challenge (i : Nat)
  | trigger (i : Nat) (kind : Option ChallengeKind)

namespace Refresh

/-- The command that does it. -/
def command : Refresh → Command
  | account i => .updateAccount i
  | order i => .updateOrder i
  | finalization i key => .finalizeOrder i key
  | authorization i => .updateAuthorization i
  | deactivation i => .deactivateAuthorization i
  | challenge i => .updateChallenge i
  | trigger i kind => .triggerChallenge i kind

/-- What a response makes of a client: the content of one resource is replaced by what the body
says, except that an order keeps its identifiers and a challenge has its location for a URL. -/
def Yields (c : Client) (x : Response) : Refresh → Client → Prop
  | account i, c' => ∃ a answer, c.accounts[i]? = some a ∧ x.url = a.location ∧
      Resource.Account.codec.decode x.reply.body = .ok answer ∧
      c' = { c with accounts := c.accounts.set i { a with content := answer } }
  | order i, c' => ∃ o answer, c.orders[i]? = some o ∧ x.url = o.location ∧
      Resource.Order.codec.decode x.reply.body = .ok answer ∧
      c' = { c with orders := c.orders.set i { o with
        content := o.content.keepingIdentifiers answer } }
  | finalization i _, c' => ∃ o answer, c.orders[i]? = some o ∧ x.url = o.content.finalize ∧
      Resource.Order.codec.decode x.reply.body = .ok answer ∧
      c' = { c with orders := c.orders.set i { o with
        content := o.content.keepingIdentifiers answer } }
  | authorization i, c' | deactivation i, c' => ∃ a answer, c.authorizations[i]? = some a ∧
      x.url = a.location ∧ Resource.Authorization.codec.decode x.reply.body = .ok answer ∧
      c' = { c with authorizations := c.authorizations.set i { a with content := answer } }
  | challenge i, c' | trigger i _, c' => ∃ ch answer, c.challenges[i]? = some ch ∧
      x.url = ch.location ∧ Resource.Challenge.codec.decode x.reply.body = .ok answer ∧
      c' = { c with challenges := c.challenges.set i { ch with
        content := if answer.url = "" then { answer with url := ch.location } else answer } }

end Refresh

namespace Client

variable {c : Client}

/-- Putting back what is there changes nothing. -/
theorem set_of_getElem?_eq_some {l : List β} {i : Nat} {x : β} (h : l[i]? = some x) :
    l.set i x = l := by
  obtain ⟨hi, rfl⟩ := List.getElem?_eq_some_iff.mp h
  exact List.set_getElem_self hi

/-- What is promised of a refresh holds if its work is done in place of the resource that it finds
in one of the lists of the client, and settles that one. -/
theorem perform_of_settles [Described α] (c : Client) (r : Refresh) (i : Nat) {need : Need}
    (all : Client → List (Tracked α)) (withAll : List (Tracked α) → Client → Client)
    (url : Tracked α → String) {work : Tracked α → Tracking α β} {f : β → Outcome}
    (hwork : c.work r.command = need.orAt (all c) i >>= fun t =>
      .ok (f <$> .within (fun c => (c.session, t))
        (fun st c => withAll ((all c).set i st.2) { c with session := st.1 }) (work t)))
    (hsession : ∀ l s, withAll l { c with session := s } = { withAll l c with session := s })
    (hself : withAll (all c) c = c)
    (hsettles : ∀ t, Tracked.Settles c.session t (url t) ((work t).run (c.session, t)))
    (hyields : ∀ x t answer content, (all c)[i]? = some t → x.url = url t →
      Described.codec.decode x.reply.body = .ok answer →
      Described.accept t.location t.content answer = .ok content →
      r.Yields c x (withAll ((all c).set i { t with content }) c)) :
    (∃ need, c.perform r.command = (.lacking need, c)) ∨
    (∃ e s, c.perform r.command = (.failed e, { c with session := s })) ∨
    ∃ outcome s x c', c.session.Receives x s ∧ r.Yields c x c' ∧
      c.perform r.command = (.done outcome, { c' with session := s }) := by
  unfold perform
  cases hfound : need.orAt (all c) i with
  | error need =>
    left
    rw [hfound] at hwork
    exact ⟨need, by rw [show c.work r.command = .error need from hwork]⟩
  | ok t =>
    right
    rw [hfound] at hwork
    have hw : c.work r.command = .ok (f <$> .within (fun c => (c.session, t))
      (fun st c => withAll ((all c).set i st.2) { c with session := st.1 }) (work t)) := hwork
    have hget := Need.orAt_eq_ok_iff.mp hfound
    have h := hsettles t
    rw [hw]
    dsimp only
    rw [run_map, run_within]
    rcases hrun : (work t).run (c.session, t) with ⟨result, s, t'⟩
    rw [hrun] at h
    cases h with
    | kept e s =>
      left
      refine ⟨e, s, ?_⟩
      dsimp only
      rw [hsession, set_of_getElem?_eq_some hget, hself]
      rfl
    | replaced v s x answer content at_url received decoded accepted =>
      right
      refine ⟨f v, s, x, _, received, hyields x t answer content hget at_url decoded accepted, ?_⟩
      dsimp only
      rw [hsession]
      rfl

/-- Finalizing an order does nothing for lack of one, or fails and changes nothing, or takes over the
answer to the last message that was sent. -/
theorem perform_finalization (c : Client) (i : Nat) (key : SigningKey) :
    (∃ need, c.perform (.finalizeOrder i key) = (.lacking need, c)) ∨
    (∃ e s, c.perform (.finalizeOrder i key) = (.failed e, { c with session := s })) ∨
    ∃ outcome s x c', c.session.Receives x s ∧ (Refresh.finalization i key).Yields c x c' ∧
      c.perform (.finalizeOrder i key) = (.done outcome, { c' with session := s }) := by
  refine perform_of_settles c (.finalization i key) i (·.orders)
    (fun l c => { c with orders := l }) (·.content.finalize) rfl (fun _ _ => rfl) rfl
    (Tracked.settles_finalize key) ?_
  intro x o answer content ho hurl hdecode haccept
  obtain rfl := Resource.Order.eq_keepingIdentifiers_of_refreshed haccept
  exact ⟨o, answer, ho, hurl, hdecode, rfl⟩

/-- Refreshing a resource does nothing for lack of one, or fails and changes nothing, or replaces
its content by the answer to the last message that was sent. -/
theorem refresh_all_or_nothing (c : Client) (r : Refresh) :
    (∃ need, c.perform r.command = (.lacking need, c)) ∨
    (∃ e s, c.perform r.command = (.failed e, { c with session := s })) ∨
    ∃ outcome s x c', c.session.Receives x s ∧ r.Yields c x c' ∧
      c.perform r.command = (.done outcome, { c' with session := s }) := by
  cases r with
  | account i =>
    refine perform_of_settles c (.account i) i (·.accounts) (fun l c => { c with accounts := l })
      (·.location) rfl (fun _ _ => rfl) rfl (fun _ => Tracked.settles_update) ?_
    intro x a answer content ha hurl hdecode haccept
    cases haccept
    exact ⟨a, answer, ha, hurl, hdecode, rfl⟩
  | order i =>
    refine perform_of_settles c (.order i) i (·.orders) (fun l c => { c with orders := l })
      (·.location) rfl (fun _ _ => rfl) rfl (fun _ => Tracked.settles_update) ?_
    intro x o answer content ho hurl hdecode haccept
    obtain rfl := Resource.Order.eq_keepingIdentifiers_of_refreshed haccept
    exact ⟨o, answer, ho, hurl, hdecode, rfl⟩
  | finalization i key => exact perform_finalization c i key
  | authorization i =>
    refine perform_of_settles c (.authorization i) i (·.authorizations)
      (fun l c => { c with authorizations := l }) (·.location) rfl (fun _ _ => rfl) rfl
      (fun _ => Tracked.settles_update) ?_
    intro x a answer content ha hurl hdecode haccept
    cases haccept
    exact ⟨a, answer, ha, hurl, hdecode, rfl⟩
  | deactivation i =>
    refine perform_of_settles c (.deactivation i) i (·.authorizations)
      (fun l c => { c with authorizations := l }) (·.location) rfl (fun _ _ => rfl) rfl
      (fun _ => Tracked.settles_deactivate) ?_
    intro x a answer content ha hurl hdecode haccept
    cases haccept
    exact ⟨a, answer, ha, hurl, hdecode, rfl⟩
  | challenge i =>
    refine perform_of_settles c (.challenge i) i (·.challenges)
      (fun l c => { c with challenges := l }) (·.location) rfl (fun _ _ => rfl) rfl
      (fun _ => Tracked.settles_update) ?_
    intro x ch answer content hch hurl hdecode haccept
    cases haccept
    exact ⟨ch, answer, hch, hurl, hdecode, rfl⟩
  | trigger i kind =>
    refine perform_of_settles c (.trigger i kind) i (·.challenges)
      (fun l c => { c with challenges := l }) (·.location) rfl (fun _ _ => rfl) rfl
      (Tracked.settles_triggerAs kind) ?_
    intro x ch answer content hch hurl hdecode haccept
    cases haccept
    exact ⟨ch, answer, hch, hurl, hdecode, rfl⟩

end Client

end AcmeClient
