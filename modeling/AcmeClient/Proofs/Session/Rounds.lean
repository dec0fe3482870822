import AcmeClient.Proofs.Session.Requests

/-!
# Rounds

A round is one attempt to send a message: if the slot is empty, a nonce is asked for, and with a
nonce at hand the message goes out. What a round puts onto the wire, how it ends and which nonce
it leaves are all read off its two exchanges.
-/

namespace AcmeClient

open Http

/-- What goes over the wire in one attempt to send a message: the request for a nonce and the
message, each if it gets that far. -/
structure Round where
  head : Option Exchange := none
  post : Option Exchange := none
  deriving DecidableEq, Repr

namespace Round

/-- The exchanges of a round in their order. -/
def exchanges (r : Round) : List Exchange := r.head.toList ++ r.post.toList

/-- The nonce for the message: the one in the slot, else the one that is granted. -/
def nonce? (slot : Option String) (r : Round) : Option String :=
  slot.orElse fun _ => r.head.bind (·.grantedNonce?)

/-- The nonce that a round leaves in the slot. -/
def slot (r : Round) : Option String := r.post.bind (·.nonce?)

/-- The response to the message, or why there is none. -/
def response (nonceUrl url : String) (r : Round) : Except Error Response :=
  match r.post, r.head with
  | some e, _ => arrival url e.reply
  | none, some e => (grant nonceUrl e.reply).bind fun _ => .error .network
  | none, none => .error .network

/-- How a message ends: with a success, or with an error. -/
def result (nonceUrl url : String) (r : Round) : Except Error Response :=
  (r.response nonceUrl url).bind Response.success

/-- A round for a message, from the nonce in the slot and whether there is a connection. -/
structure Sends (c : Connector) (nonceUrl url : String) (payload : Option Bytes) (signer : Signer)
    (slot : Option String) (isConnected : Bool) (r : Round) : Prop where
  /-- A nonce is asked for exactly if the slot is empty. -/
  head_iff : r.head.isSome ↔ slot = none ∧ isConnected ∧ (address? nonceUrl).isSome
  head_request : ∀ e ∈ r.head, ∃ address, address? nonceUrl = some address ∧
    e.request = c.request .head address {} none
  /-- The message goes out exactly if there is a nonce for it. -/
  post_iff : r.post.isSome ↔ (r.nonce? slot).isSome ∧ isConnected ∧ (address? url).isSome
  post_request : ∀ e ∈ r.post, ∃ address nonce, address? url = some address ∧
    r.nonce? slot = some nonce ∧
    e.request = c.request .post address {} (some (signer.sign url nonce payload))

/-- There is a response if the message went out and the reply arrived. -/
theorem response_eq_ok_iff {nonceUrl url : String} {r : Round} {x : Response} :
    r.response nonceUrl url = .ok x ↔
      ∃ e ∈ r.post, ∃ reply, e.reply = some reply ∧ x = ⟨url, reply⟩ := by
  rcases r with ⟨head, _ | ⟨request, reply⟩⟩
  · cases head with
    | none => simp [response]
    | some e => cases hg : grant nonceUrl e.reply <;> simp [response, hg, Except.bind]
  · cases reply with
    | none => simp [response, arrival]
    | some reply => simp [response, arrival, eq_comm]

namespace Sends

variable {c : Connector} {nonceUrl url : String} {payload : Option Bytes} {signer : Signer}
  {slot : Option String} {isConnected : Bool} {r : Round}

/-- The only message of a round is the one that it is for. -/
theorem filter_isPost (h : r.Sends c nonceUrl url payload signer slot isConnected) :
    r.exchanges.filter (·.isPost) = r.post.toList := by
  have hhead : r.head.toList.filter (·.isPost) = [] := by
    rw [List.filter_eq_nil_iff]
    intro e he
    obtain ⟨address, _, hrequest⟩ := h.head_request e (Option.mem_toList.mp he)
    simp [Exchange.isPost, hrequest, Connector.request]
  have hpost : r.post.toList.filter (·.isPost) = r.post.toList := by
    rw [List.filter_eq_self]
    intro e he
    obtain ⟨address, nonce, _, _, hrequest⟩ := h.post_request e (Option.mem_toList.mp he)
    simp [Exchange.isPost, hrequest, Connector.request]
  rw [exchanges, List.filter_append, hhead, hpost, List.nil_append]

/-- A message goes out after a request for a nonce exactly if the slot was empty. -/
theorem head_iff_of_post (h : r.Sends c nonceUrl url payload signer slot isConnected)
    (hpost : r.post.isSome) : r.head.isSome ↔ slot = none := by
  constructor
  · intro hhead
    exact (h.head_iff.mp hhead).1
  · rintro rfl
    obtain ⟨hnonce, _⟩ := h.post_iff.mp hpost
    cases hr : r.head with
    | none => simp [nonce?, hr] at hnonce
    | some e => rfl

/-- Where requests get onto the wire, a message starts with one. -/
theorem exchanges_ne_nil (h : r.Sends c nonceUrl url payload signer slot true)
    (hnonce : (address? nonceUrl).isSome) (hurl : (address? url).isSome) : r.exchanges ≠ [] := by
  cases slot with
  | none =>
    have hhead : r.head.isSome := h.head_iff.mpr ⟨rfl, rfl, hnonce⟩
    obtain ⟨e, he⟩ := Option.isSome_iff_exists.mp hhead
    simp [exchanges, he]
  | some nonce =>
    have hpost : r.post.isSome := h.post_iff.mpr ⟨rfl, rfl, hurl⟩
    obtain ⟨e, he⟩ := Option.isSome_iff_exists.mp hpost
    simp [exchanges, he]

end Sends

end Round

namespace Session

/-- The session after a round. -/
def afterRound (s : Session) (wire : Wire) (r : Round) : Session :=
  { s with wire, nonces := { s.nonces with nonce := r.slot } }

@[simp] theorem nonce_afterRound (s : Session) (wire : Wire) (r : Round) :
    (s.afterRound wire r).nonce = r.slot := rfl

@[simp] theorem wire_afterRound (s : Session) (wire : Wire) (r : Round) :
    (s.afterRound wire r).wire = wire := rfl

variable (c : Connector) (nonceUrl url : String) (payload : Option Bytes) (signer : Signer)
  (s : Session)

/-- A nonce is granted by coming back with a success. -/
theorem grantedNonce?_eq_toOption (request : Request) (reply : Option Reply) :
    (⟨request, reply⟩ : Exchange).grantedNonce? = (grant nonceUrl reply).toOption := by
  cases reply with
  | none => rfl
  | some reply =>
    by_cases hs : reply.status.isSuccess = true
    · cases hn : reply.nonce? <;> simp [grant, Exchange.grantedNonce?, hs, hn, Except.toOption]
    · simp [grant, Exchange.grantedNonce?, hs, Except.toOption]

/-- Setting the nonce that is already there changes nothing. -/
theorem withNonce_of_nonce_eq {nonce : Option String} (h : s.nonce = nonce) :
    s.withNonce nonce = s := by
  subst h
  rfl

/-- With the slot emptied, the message goes out unless its URL is out of reach. -/
theorem run_post (message : Jws) (hs : s.nonce = none) :
    let r := (do
      let response ← ask c .post url {} (some message)
      modify (·.withNonce response.nonce?)
      return response : Action Response).run s
    (s.wire.reaches url = false ∧ r = (.error .network, s)) ∨
    s.wire.reaches url = true ∧ ∃ address reply, address? url = some address ∧
      r = (arrival url reply,
        (s.exchanged (c.request .post address {} (some message)) reply).withNonce
          (reply.bind (·.nonce?))) := by
  dsimp only
  rw [Attempt.run_bind]
  rcases ask_cases c .post url {} (some message) s with ⟨hw, ha⟩ | ⟨hw, address, reply, hu, ha⟩
  · left
    exact ⟨hw, by rw [ha]⟩
  · right
    refine ⟨hw, address, reply, hu, ?_⟩
    rw [ha]
    cases reply with
    | none => exact congrArg (Prod.mk _) (withNonce_of_nonce_eq (s.exchanged _ none) hs).symm
    | some reply => rfl

/-- A nonce in the slot is taken out of it. -/
theorem run_takeNonce_of_some {nonce : String} (hn : s.nonce = some nonce) :
    (takeNonce c nonceUrl).run s = (.ok nonce, s.withNonce none) := by
  have hslot : s.nonces.nonce = some nonce := hn
  unfold takeNonce NonceStore.take
  simp only [Attempt.run_bind, Attempt.run_get, Attempt.run_set, hslot, Attempt.run_pure]
  rfl

/-- With an empty slot a nonce is asked for. -/
theorem run_takeNonce_of_none (hn : s.nonce = none) :
    (takeNonce c nonceUrl).run s = (fetchNonce c nonceUrl).run s := by
  have hslot : s.nonces.nonce = none := hn
  have hself : s.withNonce none = s := withNonce_of_nonce_eq s hn
  unfold takeNonce NonceStore.take
  simp only [Attempt.run_bind, Attempt.run_get, Attempt.run_set, hslot]
  exact congrArg (fetchNonce c nonceUrl).run hself

/-- Sending a message once is a round. -/
theorem sends_sendOnce :
    ∃ r wire, Round.Sends c nonceUrl url payload signer s.nonce s.wire.isConnected r ∧
      wire.isConnected = s.wire.isConnected ∧
      wire.exchanges = s.wire.exchanges ++ r.exchanges ∧
      (sendOnce c nonceUrl url payload signer).run s =
        (r.response nonceUrl url, s.afterRound wire r) := by
  unfold sendOnce
  rw [Attempt.run_bind]
  cases hn : s.nonce with
  | some nonce =>
    rw [run_takeNonce_of_some c nonceUrl s hn]
    rcases run_post c url (s.withNonce none) (signer.sign url nonce payload) rfl with
      ⟨hw, hp⟩ | ⟨hw, address, reply, hu, hp⟩
    · refine ⟨{}, s.wire, ?_, rfl, by simp [Round.exchanges], hp⟩
      constructor <;> simp_all [Wire.reaches]
    · refine ⟨⟨none, some ⟨_, reply⟩⟩, s.wire.record _ reply, ?_, rfl, rfl, hp⟩
      constructor <;> simp_all [Wire.reaches, Round.nonce?]
  | none =>
    rw [run_takeNonce_of_none c nonceUrl s hn]
    rcases fetchNonce_cases c nonceUrl s with ⟨hh, hf⟩ | ⟨hh, address, reply, hu, hf⟩
    · refine ⟨{}, s.wire, ?_, rfl, by simp [Round.exchanges], ?_⟩
      · constructor <;> simp_all [Wire.reaches, Round.nonce?]
      · rw [hf]
        exact congrArg (Prod.mk _) (withNonce_of_nonce_eq s hn).symm
    · rw [hf]
      let asked := c.request .head address {} none
      have hgranted := grantedNonce?_eq_toOption nonceUrl asked reply
      have hkept := withNonce_of_nonce_eq (s.exchanged asked reply) hn
      cases hg : grant nonceUrl reply with
      | error e =>
        refine ⟨⟨some ⟨asked, reply⟩, none⟩, s.wire.record asked reply, ?_, rfl, rfl, ?_⟩
        · constructor <;> simp_all [Wire.reaches, Round.nonce?, Except.toOption, asked]
        · simp only [Round.response, hg, Except.bind]
          exact congrArg (Prod.mk _) hkept.symm
      | ok nonce =>
        let message := signer.sign url nonce payload
        dsimp only
        rcases run_post c url (s.exchanged asked reply) message hn with
          ⟨hw, hp⟩ | ⟨hw, address', reply', hu', hp⟩
        · refine ⟨⟨some ⟨asked, reply⟩, none⟩, s.wire.record asked reply, ?_, rfl, rfl, ?_⟩
          · constructor <;> simp_all [Wire.reaches, Round.nonce?, Except.toOption, asked]
          · rw [hp]
            simp only [Round.response, hg, Except.bind]
            exact congrArg (Prod.mk _) hkept.symm
        · let sent := c.request .post address' {} (some message)
          refine ⟨⟨some ⟨asked, reply⟩, some ⟨sent, reply'⟩⟩,
            (s.wire.record asked reply).record sent reply', ?_, rfl, ?_, hp⟩
          · constructor <;>
              simp_all [Wire.reaches, Round.nonce?, Except.toOption, asked, sent, message]
          · simp [Round.exchanges, Wire.record]

end Session

end AcmeClient
