import AcmeClient.Proofs.Client.Refresh
import AcmeClient.Proofs.Client.Resources
import AcmeClient.Proofs.X509.Request

/-!
# An order stays the order that was asked for

A client keeps its orders, and only follows them. So the identifiers of an order, once there are
any, never change, whatever the server answers, and certificates are requested for just these.
-/

namespace AcmeClient

open Attempt Http

/-- Whether an exchange carries the request for a certificate with a key and identifiers. -/
def Http.Exchange.RequestsCertificate (e : Exchange) (key : SigningKey)
    (identifiers : List Identifier) : Prop :=
  ∃ message der, e.request.message = some message ∧
    X509.Request.make key identifiers = .ok der ∧
    message.payload = some (Resource.Finalization.codec.write (.ofRequest der))

/-- An order with a place to finalize it is finalized there by the request for its certificate. -/
theorem Order.run_finalize_of_ok {key : SigningKey} {order : Order} {der : Bytes}
    (hurl : order.content.finalize ≠ "")
    (hder : X509.Request.make key order.content.identifiers = .ok der) (s : Session) :
    (Order.finalize key).run (s, order) =
      (Tracked.submit order.content.finalize
        (Resource.Finalization.codec.write (.ofRequest der))).run (s, order) := by
  have hder : certificateRequest order key = .ok der := mapError_eq_ok_iff.mpr hder
  unfold Order.finalize
  rw [run_bind, run_get]
  dsimp only
  rw [if_neg hurl, run_bind, run_lift, hder]

namespace Client

/-- Whether one of the orders of a client has some identifiers and is finalized by the request for
just these: no other message is sent, the request was sent and answered with a success if
finalizing is done, and sending it is all that is done in the session if the order says where. -/
structure OrdersFor (c : Client) (i : Nat) (identifiers : List Identifier) : Prop where
  listed : c.orders[i]?.map (·.content.identifiers) = some identifiers
  requested : ∀ key, ∃ sent,
    (c.perform (.finalizeOrder i key)).2.session.wire.exchanges =
      c.session.wire.exchanges ++ sent ∧
    (∀ e ∈ sent, e.isPost = true → e.RequestsCertificate key identifiers) ∧
    ((c.perform (.finalizeOrder i key)).1.isDone = true → ∃ e ∈ sent, e.isPost = true ∧
      e.RequestsCertificate key identifiers ∧
      ∃ reply, e.reply = some reply ∧ reply.status.isSuccess = true)
  submitted : ∀ key o der, c.orders[i]? = some o → o.content.finalize ≠ "" →
    X509.Request.make key identifiers = .ok der →
    (c.perform (.finalizeOrder i key)).2.session =
      ((Session.send o.content.finalize
        (some (Resource.Finalization.codec.write (.ofRequest der))) o.owner.signer).run
          c.session).2

variable {c c' : Client} {o : Order} {i : Nat} {key : SigningKey}

/-- A message about the finalization of an order is the request for its certificate. -/
theorem requestsCertificate_of_drafts {d : Resource.Directory} {draft : Draft} {e : Exchange}
    {nonce : String} (ho : c.orders[i]? = some o) (h : c.Drafts d draft (.finalizeOrder i key))
    (hmessage : e.request.message = some (draft.sign nonce)) :
    e.RequestsCertificate key o.content.identifiers := by
  obtain ⟨o', der, ho', hder, rfl⟩ := h
  obtain rfl := Option.some.inj (ho.symm.trans ho')
  exact ⟨_, der, hmessage, mapError_eq_ok_iff.mp hder, rfl⟩

/-- An order that is finalized has received the answer to a message. -/
theorem receives_of_finalizeOrder (h : (c.perform (.finalizeOrder i key)).1.isDone = true) :
    ∃ x, c.session.Receives x (c.perform (.finalizeOrder i key)).2.session := by
  rcases c.perform_finalization i key with
    ⟨need, hp⟩ | ⟨e, s, hp⟩ | ⟨outcome, s, x, c', hreceives, _, hp⟩
  · rw [hp] at h
    cases h
  · rw [hp] at h
    cases h
  · rw [hp]
    exact ⟨x, hreceives⟩

/-- A client finalizes an order by the request for its identifiers. -/
theorem requested_of_order (ho : c.orders[i]? = some o) (key : SigningKey) : ∃ sent,
    (c.perform (.finalizeOrder i key)).2.session.wire.exchanges =
      c.session.wire.exchanges ++ sent ∧
    (∀ e ∈ sent, e.isPost = true → e.RequestsCertificate key o.content.identifiers) ∧
    ((c.perform (.finalizeOrder i key)).1.isDone = true → ∃ e ∈ sent, e.isPost = true ∧
      e.RequestsCertificate key o.content.identifiers ∧
      ∃ reply, e.reply = some reply ∧ reply.status.isSuccess = true) := by
  obtain ⟨sent, hsent, hcarries⟩ := (c.posts_perform (.finalizeOrder i key)).exchanges
  have hposted (e : Exchange) (he : e ∈ sent) (hpost : e.isPost = true) :
      e.RequestsCertificate key o.content.identifiers := by
    cases hcarries e he with
    | nothing isPost _ =>
      rw [isPost] at hpost
      cases hpost
    | message draft nonce allowed _ message =>
      obtain ⟨d, _, hdraft⟩ := allowed
      exact requestsCertificate_of_drafts ho hdraft message
  refine ⟨sent, hsent, hposted, fun hdone => ?_⟩
  -- what was received last answers one of these messages
  obtain ⟨x, before, request, hreceived, hmethod, _, hsuccess⟩ := receives_of_finalizeOrder hdone
  obtain rfl : sent = before ++ [⟨request, some x.reply⟩] := by
    rw [hsent, List.append_assoc] at hreceived
    exact List.append_cancel_left hreceived
  have hmem : (⟨request, some x.reply⟩ : Exchange) ∈ before ++ [⟨request, some x.reply⟩] :=
    List.mem_append_right _ (List.mem_singleton_self _)
  have hpost : (⟨request, some x.reply⟩ : Exchange).isPost = true := by
    simp [Exchange.isPost, hmethod]
  exact ⟨_, hmem, hpost, hposted _ hmem hpost, x.reply, rfl, hsuccess⟩

/-- Finalizing an order that says where is sending the request for its identifiers. -/
theorem submitted_of_order (ho : c.orders[i]? = some o) {der : Bytes}
    (hurl : o.content.finalize ≠ "")
    (hder : X509.Request.make key o.content.identifiers = .ok der) :
    (c.perform (.finalizeOrder i key)).2.session =
      ((Session.send o.content.finalize
        (some (Resource.Finalization.codec.write (.ofRequest der))) o.owner.signer).run
          c.session).2 := by
  have hwork : c.work (.finalizeOrder i key) =
      .ok ((fun _ => .done) <$> onOrder i o (Order.finalize key)) := by
    rw [work, orderAt, Need.orAt_eq_ok_iff.mpr ho]
    rfl
  rw [snd_perform hwork, run_map, onOrder, run_within, Order.run_finalize_of_ok hurl hder]
  exact (congrArg (·.2.1) (Tracked.run_submit o c.session _ _)).trans (Tracked.session_conclude _ _ _)

/-- The orders of a client are for their identifiers. -/
theorem ordersFor_of_order (ho : c.orders[i]? = some o) :
    c.OrdersFor i o.content.identifiers where
  listed := by rw [ho]; rfl
  requested := requested_of_order ho
  submitted key o' der ho' hurl hder := by
    obtain rfl := Option.some.inj (ho.symm.trans ho')
    exact submitted_of_order ho hurl hder

/-- An order that has identifiers is for these ever after. -/
theorem ordersFor_after (ho : c.orders[i]? = some o) (hne : o.content.identifiers ≠ [])
    (later : List Command) : (c.after later).OrdersFor i o.content.identifiers := by
  obtain ⟨o', ho', hfollows⟩ := (Extends.after c later).orders i o ho
  rw [← Order.identifiers_eq_of_follows hne hfollows]
  exact ordersFor_of_order ho'

/-- A client that has created an order has it for the identifiers that were asked for. -/
theorem order_of_createOrder {request : OrderRequest}
    (h : (c.perform (.createOrder i request)).1.isDone = true) :
    ∃ o, (c.perform (.createOrder i request)).2.orders[c.orders.length]? = some o ∧
      o.content.identifiers = request.identifiers ∧ request.identifiers ≠ [] := by
  rcases c.perform_cases (.createOrder i request) with ⟨hnot, _⟩ | ⟨s, c', hmoves, hs⟩
  · rw [h] at hnot
    cases hnot
  · obtain ⟨a, o, _, _, hne, hidentifiers, rfl⟩ := hmoves
    rw [hs]
    exact ⟨o, List.getElem?_concat_length, hidentifiers, hne⟩

/-- A client that has loaded an order has the one that was asked for. -/
theorem order_of_loadOrder {url : String} (h : (c.perform (.loadOrder i url)).1.isDone = true) :
    ∃ o, (c.perform (.loadOrder i url)).2.orders[c.orders.length]? = some o ∧
      o.location = url := by
  rcases c.perform_cases (.loadOrder i url) with ⟨hnot, _⟩ | ⟨s, c', hmoves, hs⟩
  · rw [h] at hnot
    cases hnot
  · obtain ⟨a, o, _, _, hurl, rfl⟩ := hmoves
    rw [hs]
    exact ⟨o, List.getElem?_concat_length, hurl⟩

/-- Whatever a client does later, an order that was created is for exactly the identifiers that were
asked for, and an order that was loaded is for its own from when it has any. -/
theorem identifiers_survive (c : Client) :
    (∀ i request, (c.perform (.createOrder i request)).1.isDone = true → ∀ later,
      ((c.perform (.createOrder i request)).2.after later).OrdersFor c.orders.length
        request.identifiers) ∧
    ∀ i url, (c.perform (.loadOrder i url)).1.isDone = true → ∀ earlier, ∃ o,
      ((c.perform (.loadOrder i url)).2.after earlier).orders[c.orders.length]? = some o ∧
      o.location = url ∧ (o.content.identifiers ≠ [] → ∀ later,
        (((c.perform (.loadOrder i url)).2.after earlier).after later).OrdersFor c.orders.length
          o.content.identifiers) := by
  constructor
  · intro i request h later
    obtain ⟨o, ho, hidentifiers, hne⟩ := order_of_createOrder h
    rw [← hidentifiers] at hne ⊢
    exact ordersFor_after ho hne later
  · intro i url h earlier
    obtain ⟨loaded, hloaded, hurl⟩ := order_of_loadOrder h
    obtain ⟨o, ho, hfollows⟩ := (Extends.after _ earlier).orders _ loaded hloaded
    exact ⟨o, ho, hfollows.location_eq.trans hurl, fun hne later => ordersFor_after ho hne later⟩

/-- The case of an order that is created for two domains and answered with both the other way
round, then updated with the same answer. -/
theorem identifiers_survive_reversed :
    let owner : Credentials := ⟨⟨1, by decide, by decide⟩, "http://localhost/account"⟩
    let request : OrderRequest := {
      identifiers := [⟨"dns", "b.example", none⟩, ⟨"dns", "a.example", none⟩] }
    let answer : Resource.Order := {
      status := .ready
      identifiers := [⟨"dns", "a.example", none⟩, ⟨"dns", "b.example", none⟩] }
    let reply : Reply := {
      status := ⟨201⟩, headers := [("location", Utf8.encode "http://localhost/order")]
      body := Resource.Order.codec.write answer }
    let d : CachedDirectory := {
      content := { newNonce := "http://localhost/nonce", newAccount := "http://localhost/account",
                   newOrder := "http://localhost/order" }
      validators := {}
      number := 0 }
    let c : Client := {
      session := {
        uri := { scheme := "http", hasAuthority := true, host := some (.domain "localhost") }
        provider := .generic, nonces := { nonce := some "bm9uY2U" }, directory := some d
        wire := { replies := [reply, reply] } }
      accounts := [{ owner, location := owner.location, content := {} }] }
    (c.perform (.createOrder 0 request)).1.isDone = true ∧
      ((c.perform (.createOrder 0 request)).2.after [.updateOrder 0]).OrdersFor 0
        request.identifiers := by
  intro owner request answer reply d c
  have hdone : (c.perform (.createOrder 0 request)).1.isDone = true := by decide +kernel
  exact ⟨hdone, (identifiers_survive c).1 0 request hdone [.updateOrder 0]⟩

end Client

end AcmeClient
