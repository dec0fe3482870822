import AcmeClient.Proofs.Effects
import AcmeClient.Session.Signed

/-!
# What requests do to a session

A request either does not leave the client, because its URL is no web address or there is no
connection, and then changes nothing; or it adds one exchange to the wire. Connecting only makes
connectors, and the directory at hand changes only when a new one is fetched.
-/

namespace AcmeClient

namespace Http

/-- Whether a request for a URL gets onto the wire. -/
def Wire.reaches (w : Wire) (url : String) : Bool := w.isConnected && (address? url).isSome

/-- What comes back for a request to a URL: the response, unless it is lost. -/
def arrival (url : String) : Option Reply → Except Error Response
  | none => .error .network
  | some reply => .ok ⟨url, reply⟩

/-- What comes back for a request for a nonce: the nonce, or why there is none. -/
def grant (url : String) : Option Reply → Except Error String
  | none => .error .network
  | some reply =>
    if reply.status.isSuccess then
      match reply.nonce? with
      | some nonce => .ok nonce
      | none => .error (.protocolViolation (.noNonce url))
    else .error (.server url (Response.problem ⟨url, reply⟩))

/-- What tells whether a directory has changed since a reply brought it. -/
def Reply.validators (r : Reply) : Validators :=
  { etag := r.header? "etag", lastModified := r.header? "last-modified" }

/-- Whether a message was sent. -/
def Exchange.isPost (e : Exchange) : Bool := e.request.method == .post

/-- The nonce that comes back, whatever the status says. -/
def Exchange.nonce? (e : Exchange) : Option String := e.reply.bind (·.nonce?)

/-- The nonce that comes back with a success. -/
def Exchange.grantedNonce? (e : Exchange) : Option String :=
  e.reply.bind fun reply => if reply.status.isSuccess then reply.nonce? else none

namespace Response

/-- A response counts as a success by its status, and is then passed on. -/
theorem success_eq_ok {r x : Response} (h : r.success = .ok x) :
    x = r ∧ r.reply.status.isSuccess = true := by
  unfold success at h
  split at h
  · exact ⟨(Except.ok.inj h).symm, ‹_›⟩
  · cases h

/-- What a response stands for is what its body stands for. -/
theorem decode_eq_ok {r : Response} {c : Json.Codec α} {x : α} (h : r.decode c = .ok x) :
    c.decode r.reply.body = .ok x := by
  unfold decode at h
  cases hb : c.decode r.reply.body with
  | error e =>
    rw [hb] at h
    cases h
  | ok y =>
    rw [hb] at h
    cases h
    rfl

end Response

end Http

open Http

namespace Session

/-- The session with other connectors. -/
def reconnected (s : Session) (connectors : Nat) (shared : Option Connector) : Session :=
  { s with connectors, shared }

/-- The session after an exchange. -/
def exchanged (s : Session) (request : Request) (reply : Option Reply) : Session :=
  { s with wire := s.wire.record request reply }

@[simp] theorem isConnected_exchanged (s : Session) (request : Request) (reply : Option Reply) :
    (s.exchanged request reply).wire.isConnected = s.wire.isConnected := rfl

@[simp] theorem wire_withNonce (s : Session) (nonce : Option String) :
    (s.withNonce nonce).wire = s.wire := rfl

variable (c : Connector) (method : Method) (url : String) (validators : Validators)
  (message : Option Jws) (s : Session)

/-- A request that does not get onto the wire changes nothing; any other one adds an exchange. -/
theorem ask_cases :
    (s.wire.reaches url = false ∧
      (ask c method url validators message).run s = (.error .network, s)) ∨
    s.wire.reaches url = true ∧ ∃ address reply, address? url = some address ∧
      (ask c method url validators message).run s =
        (arrival url reply, s.exchanged (c.request method address validators message) reply) := by
  unfold ask Wire.reaches
  cases ha : address? url with
  | none =>
    left
    exact ⟨Bool.and_false _, rfl⟩
  | some address =>
    simp only [Attempt.run_bind, Attempt.run_get, Attempt.run_set, Wire.send]
    cases hw : s.wire.isConnected with
    | false =>
      left
      exact ⟨rfl, rfl⟩
    | true =>
      right
      let request := c.request method address validators message
      refine ⟨rfl, address, s.wire.replies.head?.join.map (·.receivedFor request.method), rfl, ?_⟩
      cases hr : s.wire.replies.head?.join <;> rfl

/-- A connector is made, or cannot be made, and nothing else happens. -/
theorem run_newConnector :
    ∃ r connectors, newConnector.run s = (r, { s with connectors }) := by
  unfold newConnector
  simp only [Attempt.run_bind, Attempt.run_get, Attempt.run_lift, Attempt.run_set, Attempt.run_pure]
  cases s.provider.transport s.files s.acceptsRoot s.settings with
  | error e => exact ⟨.error e, s.connectors, rfl⟩
  | ok roots => exact ⟨.ok ⟨s.connectors, s.settings, roots⟩, s.connectors + 1, rfl⟩

/-- Connecting makes connectors and does nothing else. -/
theorem run_connect :
    ∃ r connectors shared, connect.run s = (r, s.reconnected connectors shared) := by
  obtain ⟨r, connectors, hn⟩ := run_newConnector s
  unfold connect
  rw [Attempt.run_bind, Attempt.run_get]
  dsimp only
  by_cases hreuse : s.settings.reuse = true
  · cases hs : s.shared with
    | some c => exact ⟨.ok c, s.connectors, s.shared, by simp [hreuse, reconnected]⟩
    | none =>
      simp only [hreuse, Bool.not_true, Bool.false_eq_true, ite_false, Attempt.run_bind, hn]
      cases r with
      | error e => exact ⟨.error e, connectors, s.shared, rfl⟩
      | ok c => exact ⟨.ok c, connectors, some c, rfl⟩
  · exact ⟨r, connectors, s.shared, by simp [hreuse, hn, reconnected]⟩

/-- A request for a nonce changes the wire only. -/
theorem fetchNonce_cases :
    (s.wire.reaches url = false ∧ (fetchNonce c url).run s = (.error .network, s)) ∨
    s.wire.reaches url = true ∧ ∃ address reply, address? url = some address ∧
      (fetchNonce c url).run s =
        (grant url reply, s.exchanged (c.request .head address {} none) reply) := by
  unfold fetchNonce
  rw [Attempt.run_bind]
  rcases ask_cases c .head url {} none s with ⟨hw, ha⟩ | ⟨hw, address, reply, haddress, ha⟩
  · left
    exact ⟨hw, by rw [ha]⟩
  · right
    refine ⟨hw, address, reply, haddress, ?_⟩
    rw [ha]
    cases reply with
    | none => rfl
    | some reply =>
      simp only [arrival, grant, Attempt.run_bind, Attempt.run_lift, Response.success,
        Response.nonce?]
      by_cases hs : reply.status.isSuccess = true
      · simp only [hs, ite_true]
        cases reply.nonce? <;> rfl
      · simp only [hs, Bool.false_eq_true, ite_false]

/-- Asking for the directory adds at most one exchange. -/
theorem askDirectory_cases :
    (s.wire.reaches url = false ∧
      (askDirectory c url validators).run s = (.error .network, s)) ∨
    ∃ address reply, address? url = some address ∧
      (askDirectory c url validators).run s =
        (match reply with
          | none => .error .network
          | some reply =>
            if reply.status = .notModified then .ok none
            else (Response.success ⟨url, reply⟩).map some,
        s.exchanged (c.request .get address validators none) reply) := by
  unfold askDirectory
  rw [Attempt.run_bind]
  rcases ask_cases c .get url validators none s with ⟨hw, ha⟩ | ⟨_, address, reply, haddress, ha⟩
  · left
    exact ⟨hw, by rw [ha]⟩
  · right
    refine ⟨address, reply, haddress, ?_⟩
    rw [ha]
    cases reply with
    | none => rfl
    | some reply =>
      by_cases hs : reply.status = .notModified
      · simp [arrival, hs]
      · simp [arrival, hs]

/-- The session with a directory that a reply has brought, and with the validators of the reply. -/
def listed (s : Session) (d : CachedDirectory) (reply : Reply) : Session :=
  { s with directory := some d, remembered := reply.validators }

/-- What comes of a request for the directory after which a session is as given: only a success that
can be read changes anything else. -/
inductive Answered (s t : Session) : Option Reply → Except Error CachedDirectory → Session → Prop
  | lost : Answered s t none (.error .network) t
  | unchanged {reply : Reply} {d : CachedDirectory} (status : reply.status = .notModified)
    (known : s.directory = some d) : Answered s t (some reply) (.ok d) t
  | unfounded {reply : Reply} (status : reply.status = .notModified)
    (unknown : s.directory = none) : Answered s t (some reply)
      (.error (.protocolViolation (.unchangedBeforeFetch s.uri.toText))) t
  | refused {reply : Reply} (url : String) (status : reply.status ≠ .notModified)
    (failure : reply.status.isSuccess = false) :
    Answered s t (some reply) (.error (.server url (Response.problem ⟨url, reply⟩))) t
  | unreadable {reply : Reply} {fault : Json.Fault} (success : reply.status.isSuccess = true)
    (decoded : Resource.Directory.codec.decode reply.body = .error fault) :
    Answered s t (some reply) (.error (.json fault)) t
  | replaced {reply : Reply} {d : CachedDirectory} (success : reply.status.isSuccess = true)
    (decoded : Resource.Directory.codec.decode reply.body = .ok d.content) :
    Answered s t (some reply) (.ok d) (t.listed d reply)

/-- What fetching the directory does: nothing is sent if there is no connector or no way to the
server, and else one request with the validators at hand. -/
inductive Fetches (s : Session) : Except Error CachedDirectory → Session → Prop
  | unsent (e : Error) (connectors : Nat) (shared : Option Connector)
    (unreachable : ∀ url c, s.provider.resolve s.uri = .ok url → (connect.run s).1 = .ok c →
      s.wire.reaches url.toText = false) :
    Fetches s (.error e) (s.reconnected connectors shared)
  | sent {r : Except Error CachedDirectory} {t : Session} (connectors : Nat)
    (shared : Option Connector) (c : Connector) (address : Url) (reply : Option Reply)
    (answered : Answered s ((s.reconnected connectors shared).exchanged
      (c.request .get address s.validators none) reply) reply r t) : Fetches s r t

/-- A success about the directory is taken over if it can be read. -/
theorem answered_takeOver (t : Session) (reply : Reply) (success : reply.status.isSuccess = true) :
    let response : Response := ⟨url, reply⟩
    let r := (do
      let content ← response.decode Resource.Directory.codec
      remember response.validators
      adopt content response.validators : Action CachedDirectory).run t
    Answered s t (some reply) r.1 r.2 := by
  intro response
  rw [Attempt.run_bind, Attempt.run_lift]
  cases hd : Resource.Directory.codec.decode reply.body with
  | error fault =>
    have herror : response.decode Resource.Directory.codec = .error (.json fault) := by
      rw [Response.decode, hd]
      rfl
    rw [herror]
    exact .unreadable success hd
  | ok content =>
    have hok : response.decode Resource.Directory.codec = .ok content := by
      rw [Response.decode, hd]
      rfl
    rw [hok]
    exact .replaced success hd

/-- Fetching the directory does one of these things. -/
theorem fetches_refreshDirectory :
    Fetches s (refreshDirectory.run s).1 (refreshDirectory.run s).2 := by
  obtain ⟨rc, connectors, shared, hc⟩ := run_connect s
  unfold refreshDirectory
  rw [Attempt.run_bind, Attempt.run_get]
  dsimp only
  rw [Attempt.run_bind, Attempt.run_lift]
  cases hurl : s.provider.resolve s.uri with
  | error e => exact .unsent e s.connectors s.shared (by simp [hurl])
  | ok url =>
    dsimp only
    rw [Attempt.run_bind, hc]
    cases rc with
    | error e => exact .unsent e connectors shared (by simp [hc])
    | ok c =>
      dsimp only
      rw [Attempt.run_bind]
      rcases askDirectory_cases c url.toText s.validators (s.reconnected connectors shared) with
        ⟨hw, ha⟩ | ⟨address, reply, _, ha⟩
      · rw [ha]
        refine .unsent .network connectors shared fun url' _ hurl' _ => ?_
        obtain rfl := Except.ok.inj (hurl.symm.trans hurl')
        exact hw
      · refine .sent connectors shared c address reply ?_
        rw [ha]
        cases reply with
        | none => exact .lost
        | some reply =>
          dsimp only
          by_cases hs : reply.status = .notModified
          · rw [if_pos hs]
            dsimp only
            split
            · rename_i d hd
              exact .unchanged hs hd
            · rename_i hd
              exact .unfounded hs hd
          · rw [if_neg hs]
            cases hsuccess : reply.status.isSuccess with
            | false =>
              have herror : Response.success ⟨url.toText, reply⟩ =
                  .error (.server url.toText (Response.problem ⟨url.toText, reply⟩)) := by
                simp [Response.success, hsuccess]
              rw [herror]
              exact .refused url.toText hs hsuccess
            | true =>
              have hok : Response.success ⟨url.toText, reply⟩ = .ok ⟨url.toText, reply⟩ := by
                simp [Response.success, hsuccess]
              rw [hok]
              exact answered_takeOver url.toText s _ reply hsuccess

/-- What fetching the directory does: either the directory stays and at most one request is sent
for it, or it is replaced by the one in the body of a success. -/
inductive Refreshed (s : Session) : Except Error CachedDirectory → Session → Prop
  | unsent (r : Except Error CachedDirectory) (connectors : Nat) (shared : Option Connector)
      (known : ∀ d, r = .ok d → s.directory = some d) :
      Refreshed s r (s.reconnected connectors shared)
  | kept (r : Except Error CachedDirectory) (connectors : Nat) (shared : Option Connector)
      (c : Connector) (address : Url) (reply : Option Reply)
      (known : ∀ d, r = .ok d → s.directory = some d) :
      Refreshed s r ((s.reconnected connectors shared).exchanged
        (c.request .get address s.validators none) reply)
  | replaced (d : CachedDirectory) (connectors : Nat) (shared : Option Connector)
      (c : Connector) (address : Url) (reply : Reply) (success : reply.status.isSuccess = true)
      (decoded : Resource.Directory.codec.decode reply.body = .ok d.content) :
      Refreshed s (.ok d) (((s.reconnected connectors shared).exchanged
        (c.request .get address s.validators none) (some reply)).listed d reply)

/-- Fetching the directory keeps or replaces it. -/
theorem refreshed_refreshDirectory :
    Refreshed s (refreshDirectory.run s).1 (refreshDirectory.run s).2 := by
  have h := fetches_refreshDirectory s
  generalize (refreshDirectory.run s).1 = r, (refreshDirectory.run s).2 = t at h
  cases h with
  | unsent e connectors shared => exact .unsent _ connectors shared (by simp)
  | sent connectors shared c address reply answered =>
    cases answered with
    | unchanged status known =>
      refine .kept _ connectors shared c address _ fun d hd => ?_
      obtain rfl := Except.ok.inj hd
      exact known
    | replaced success decoded =>
      exact .replaced _ connectors shared c address _ success decoded
    | lost | unfounded | refused | unreadable =>
      exact .kept _ connectors shared c address _ (by simp)

/-- The directory just fetched is the one at hand. -/
theorem Refreshed.directory_eq {s t : Session} {d : CachedDirectory}
    (h : Refreshed s (.ok d) t) : t.directory = some d := by
  cases h with
  | unsent _ _ _ known => exact known d rfl
  | kept _ _ _ _ _ _ known => exact known d rfl
  | replaced => rfl

/-- Fetching the directory leaves the nonce alone. -/
theorem Refreshed.nonce_eq {s t : Session} {r : Except Error CachedDirectory}
    (h : Refreshed s r t) : t.nonce = s.nonce := by
  cases h <;> rfl

/-- Fetching the directory adds at most one request for it to what went over the wire. -/
theorem Refreshed.exchanges_eq {s t : Session} {r : Except Error CachedDirectory}
    (h : Refreshed s r t) : ∃ sent, t.wire.exchanges = s.wire.exchanges ++ sent ∧
      sent.length ≤ 1 ∧ ∀ e ∈ sent, e.request.method = .get ∧ e.request.message = none := by
  cases h with
  | unsent => exact ⟨[], (List.append_nil _).symm, Nat.zero_le 1, by simp⟩
  | kept | replaced =>
    refine ⟨[_], rfl, Nat.le_refl 1, fun e he => ?_⟩
    obtain rfl := List.mem_singleton.mp he
    exact ⟨rfl, rfl⟩

/-- A directory at hand is used without a request. -/
theorem run_currentDirectory {d : CachedDirectory} (hd : s.directory = some d) :
    currentDirectory.run s = (.ok d, s) := by
  unfold currentDirectory
  rw [Attempt.run_bind, Attempt.run_get]
  simp only [hd, Attempt.run_pure]

/-- The directory that is used is the one at hand afterwards. -/
theorem currentDirectory_eq_ok {s t : Session} {d : CachedDirectory}
    (h : currentDirectory.run s = (.ok d, t)) : t.directory = some d := by
  cases hs : s.directory with
  | some known =>
    rw [run_currentDirectory s hs] at h
    cases h
    exact hs
  | none =>
    have hr := refreshed_refreshDirectory s
    unfold currentDirectory at h
    rw [Attempt.run_bind, Attempt.run_get] at h
    simp only [hs] at h
    rw [h] at hr
    exact hr.directory_eq

/-- An endpoint that every directory has is found in the directory at hand. -/
theorem run_endpoint {e : Endpoint} {d : CachedDirectory} (hd : s.directory = some d)
    (hu : d.content.url? e = some url) : (endpoint e).run s = (.ok url, s) := by
  unfold endpoint endpoint?
  simp only [Attempt.run_bind, run_currentDirectory s hd, Attempt.run_pure, hu]

/-- An endpoint that is found is one of the directory at hand afterwards. -/
theorem endpoint_eq_ok {e : Endpoint} {s t : Session} {url : String}
    (h : (endpoint e).run s = (.ok url, t)) :
    ∃ d, t.directory = some d ∧ d.content.url? e = some url := by
  unfold endpoint endpoint? at h
  obtain ⟨found, u, hf, h⟩ := Attempt.run_bind_eq_ok h
  obtain ⟨d, v, hd, hf⟩ := Attempt.run_bind_eq_ok hf
  cases hf
  cases hurl : d.content.url? e with
  | none => simp [hurl] at h
  | some found =>
    simp only [hurl] at h
    cases h
    exact ⟨d, currentDirectory_eq_ok hd, hurl⟩

/-- The place for nonces is the one in the directory at hand afterwards. -/
theorem endpoint_newNonce_eq_ok {s t : Session} {url : String}
    (h : (endpoint .newNonce).run s = (.ok url, t)) :
    ∃ d, t.directory = some d ∧ url = d.content.newNonce := by
  obtain ⟨d, hd, hurl⟩ := endpoint_eq_ok h
  exact ⟨d, hd, (Option.some.inj hurl).symm⟩

end Session

end AcmeClient
