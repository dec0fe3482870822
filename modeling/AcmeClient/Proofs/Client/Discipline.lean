import AcmeClient.Proofs.Client.Drafts
import AcmeClient.Proofs.Session.Rounds
import AcmeClient.Proofs.Tracked.Following

/-!
# Disciplines

Everything that a client does in its session consists of a few kinds of steps. A discipline is an
effect that each of them has when nonces are asked for where the directory at hand says, and when
only some messages are sent; then every operation that sends no others has it, and so has every
command and every run. Some operations get by without nonces, and need less of an effect.
-/

namespace AcmeClient

open Attempt

/-- Whether a command sends no message and asks for no nonce. -/
def Command.isUnsigned : Command → Bool
  | .connect | .showDirectory | .refreshDirectory | .showCapabilities | .findEndpoint _
  | .findEndpointIfAny _ | .fetch _ => true
  | _ => false

namespace Client

variable {c : Client}

/-- A command that has all it needs leaves a client as what is done for it leaves it. -/
theorem snd_perform {command : Command} {w : Attempt Client Outcome}
    (hw : c.work command = .ok w) : (c.perform command).2 = (w.run c).2 := by
  rw [perform, hw]
  dsimp only
  rcases w.run c with ⟨_ | _, _⟩
  · rfl
  · rfl

/-- A command leaves a client as it is or as what is done for it leaves it. -/
theorem perform_ind {command : Command} {P : Client → Prop} (lacking : P c)
    (worked : ∀ w, c.work command = .ok w → P (w.run c).2) : P (c.perform command).2 := by
  cases hw : c.work command with
  | error need =>
    rw [perform, hw]
    exact lacking
  | ok w =>
    rw [snd_perform hw]
    exact worked w hw

end Client

namespace Session

/-- An effect that all steps without a nonce have. -/
structure Reading (R : Session → Session → Prop) : Prop extends Effect R where
  connecting : Keeps R connect
  refreshing : Keeps R refreshDirectory
  fetching : ∀ c url, Keeps R (ask c .get url)

/-- An effect that all steps in a session have in which only some messages are sent, depending on
the directory at hand. -/
structure Discipline (M : Resource.Directory → Draft → Prop) (R : Session → Session → Prop) : Prop
    extends Reading R where
  /-- A nonce is fetched from where the directory says and put into the slot. -/
  resetting : ∀ {s d} c, s.directory = some d →
    R s ((do
      let nonce ← fetchNonce c d.content.newNonce
      modify (·.withNonce (some nonce)) : Action Unit).run s).2
  /-- A message is sent once, with nonces from where the directory says. -/
  sending : ∀ {s d url payload signer} c, s.directory = some d →
    M d.content ⟨signer, url, payload⟩ →
    R s ((sendOnce c d.content.newNonce url payload signer).run s).2
  sleeping : ∀ s d, R s (s.sleep d)

namespace Reading

variable {R : Session → Session → Prop} (hR : Reading R)

include hR

/-- The directory is fetched if there is none. -/
theorem currentDirectory : Keeps R currentDirectory := by
  unfold Session.currentDirectory
  refine .bind hR.toEffect (.get hR.toEffect) fun s => ?_
  cases s.directory with
  | some d => exact .pure hR.toEffect d
  | none => exact hR.refreshing

/-- The capabilities are found in the directory. -/
theorem capabilities : Keeps R capabilities :=
  .bind hR.toEffect hR.currentDirectory fun _ => .pure hR.toEffect _

/-- An endpoint is found in the directory, if it is there. -/
theorem endpoint? (e : Endpoint) : Keeps R (endpoint? e) :=
  .bind hR.toEffect hR.currentDirectory fun _ => .pure hR.toEffect _

/-- An endpoint is found in the directory. -/
theorem endpoint (e : Endpoint) : Keeps R (endpoint e) := by
  unfold Session.endpoint
  refine .bind hR.toEffect (hR.endpoint? e) fun url => ?_
  cases url with
  | some url => exact .pure hR.toEffect url
  | none => exact .throw hR.toEffect _

/-- Something is fetched without a signature. -/
theorem fetch (url : String) : Keeps R (fetch url) :=
  .bind hR.toEffect hR.connecting fun c =>
    .bind hR.toEffect (hR.fetching c url) fun _ => .lift hR.toEffect _

/-- What is done for an unsigned command. -/
theorem work {c : Client} {command : Command} {w : Attempt Client Outcome}
    (hc : command.isUnsigned = true) (h : c.work command = .ok w) :
    Keeps (fun c c' => R c.session c'.session) w := by
  cases command with
  | connect =>
    cases h
    exact .map _ (.within (fun _ _ h => h) hR.connecting)
  | showDirectory =>
    cases h
    exact .map _ (.within (fun _ _ h => h) hR.currentDirectory)
  | refreshDirectory =>
    cases h
    exact .map _ (.within (fun _ _ h => h) hR.refreshing)
  | showCapabilities =>
    cases h
    exact .map _ (.within (fun _ _ h => h) hR.capabilities)
  | findEndpoint e =>
    cases h
    exact .map _ (.within (fun _ _ h => h) (hR.endpoint e))
  | findEndpointIfAny e =>
    cases h
    exact .map _ (.within (fun _ _ h => h) (hR.endpoint? e))
  | fetch url =>
    cases h
    exact .map _ (.within (fun _ _ h => h) (hR.fetch url))
  | _ => cases hc

/-- Every unsigned command has the effect. -/
theorem perform (c : Client) {command : Command} (hc : command.isUnsigned = true) :
    R c.session (c.perform command).2.session :=
  Client.perform_ind (P := fun c' => R c.session c'.session) (hR.refl c.session)
    fun _ hw => hR.work hc hw c

end Reading

namespace Discipline

variable {M : Resource.Directory → Draft → Prop} {R : Session → Session → Prop}
  (hR : Discipline M R)

include hR

/-- The nonce is replaced. -/
theorem resetNonce : Keeps R resetNonce := by
  unfold Session.resetNonce
  refine .bind hR.toEffect hR.connecting fun c => ?_
  refine .bind_of hR.toEffect (hR.endpoint .newNonce) fun s url t h => ?_
  obtain ⟨d, hd, rfl⟩ := endpoint_newNonce_eq_ok h
  exact hR.resetting c hd

section Sending

variable {s : Session} {url : String} {payload : Option Bytes} {signer : Signer}

/-- A message is sent, at most twice. -/
theorem run_sendSigned (c : Connector)
    (hM : ∀ d, (∀ had, s.directory = some had → d = had) → M d.content ⟨signer, url, payload⟩) :
    R s ((sendSigned c url payload signer).run s).2 := by
  unfold Session.sendSigned
  refine Keeps.run_bind_of hR.toEffect (hR.endpoint .newNonce s) fun nonceUrl t h => ?_
  obtain ⟨d, hd, rfl⟩ := endpoint_newNonce_eq_ok h
  have hm : M d.content ⟨signer, url, payload⟩ := by
    refine hM d fun had hhad => ?_
    rw [run_endpoint _ s hhad rfl] at h
    obtain ⟨_, rfl⟩ := Prod.mk.inj h
    exact Option.some.inj (hd.symm.trans hhad)
  obtain ⟨r, wire, _, _, _, hrun⟩ := sends_sendOnce c d.content.newNonce url payload signer t
  have hfirst := hR.sending c hd hm
  rw [run_bind, hrun]
  rw [hrun] at hfirst
  cases r.response d.content.newNonce url with
  | error e => exact hfirst
  | ok response =>
    dsimp only
    cases response.success with
    | ok response => exact hfirst
    | error e =>
      dsimp only
      split
      · -- the round before has left the directory in place
        refine hR.trans hfirst (run_bind_ind (P := fun r => R _ r.2) ?_ ?_)
        all_goals
          intro _ u hu
          have hsecond := hR.sending (s := t.afterRound wire r) c hd hm
          rw [hu] at hsecond
          exact hsecond
      · exact hfirst

/-- A message is sent through a connector of its own. -/
theorem run_send
    (hM : ∀ d, (∀ had, s.directory = some had → d = had) → M d.content ⟨signer, url, payload⟩) :
    R s ((send url payload signer).run s).2 := by
  refine Keeps.run_bind_of hR.toEffect (hR.connecting s) fun c t h => hR.run_sendSigned c ?_
  obtain ⟨_, connectors, shared, hrun⟩ := run_connect s
  rw [hrun] at h
  cases h
  exact hM

/-- A message that does not depend on the directory is sent. -/
theorem send (hM : ∀ d, M d ⟨signer, url, payload⟩) : Keeps R (send url payload signer) :=
  fun _ => hR.run_send fun d _ => hM d.content

end Sending

/-- An account is created or found. -/
theorem account {key : SigningKey} {wanted : Resource.Account}
    (hM : ∀ d, M d (wanted.draft key d)) : Keeps R (account key wanted) := by
  refine .bind_of hR.toEffect (hR.endpoint _) fun s url t h => ?_
  obtain ⟨d, hd, hurl⟩ := endpoint_eq_ok h
  obtain rfl := Option.some.inj hurl
  refine Keeps.run_bind_of hR.toEffect (hR.run_send fun d' hd' => ?_) fun response t' _ => ?_
  · rw [hd' d hd]
    exact hM d.content
  · exact Keeps.bind hR.toEffect (.lift hR.toEffect _) (fun _ =>
      .bind hR.toEffect (.lift hR.toEffect _) fun _ => .pure hR.toEffect _) t'

/-- An account is created. -/
theorem register {key : SigningKey} {contact : Option (List String)}
    (hM : ∀ d, M d ((newAccount contact).draft key d)) : Keeps R (register key contact) :=
  hR.account hM

/-- The account of a key that is read from a text is created or found. -/
theorem logInAs {pem : String} {wanted : Resource.Account}
    (hM : ∀ key d, accountKey pem = .ok key → M d (wanted.draft key d)) :
    Keeps R (do
      let key ← accountKey pem
      Session.account key wanted : Action Account) := by
  cases hkey : accountKey pem with
  | error e => exact .throw hR.toEffect e
  | ok key => exact hR.account fun d => hM key d hkey

/-- A resource is loaded. -/
theorem load [Described α] {owner : Credentials} {location : String}
    (hM : ∀ d, M d (owner.draft location)) : Keeps R (Tracked.load (α := α) owner location) :=
  .bind hR.toEffect (hR.send hM) fun _ =>
    .bind hR.toEffect (.lift hR.toEffect _) fun _ => .pure hR.toEffect _

/-- A challenge is loaded. -/
theorem loadChallenge {owner : Credentials} {location : String}
    (hM : ∀ d, M d (owner.draft location)) : Keeps R (Challenge.load owner location) :=
  .bind hR.toEffect (hR.load hM) fun _ => .pure hR.toEffect _

/-- An order is created. -/
theorem create {request : OrderRequest} {owner : Credentials}
    (hM : ∀ d content, request.payload = .ok content →
      M d (owner.draft d.newOrder (some (Resource.NewOrder.codec.write content)))) :
    Keeps R (request.create owner) := by
  unfold OrderRequest.create
  split
  · exact .throw hR.toEffect _
  · refine .bind_of hR.toEffect hR.currentDirectory fun s d t h => ?_
    have hd := currentDirectory_eq_ok h
    dsimp only
    split
    · exact hR.refl t
    · rw [run_bind, run_lift]
      cases hcontent : request.payload with
      | error e => exact hR.refl t
      | ok content =>
        refine Keeps.run_bind_of hR.toEffect (hR.run_send fun d' hd' => ?_) fun response t' _ => ?_
        · rw [hd' d hd]
          exact hM d.content content hcontent
        · exact Keeps.bind hR.toEffect (.lift hR.toEffect _) (fun _ =>
            .bind hR.toEffect (.lift hR.toEffect _) fun _ =>
              .bind hR.toEffect (.lift hR.toEffect _) fun _ => .pure hR.toEffect _) t'

/-- The authorizations of an order are loaded. -/
theorem authorizations {order : Order}
    (hM : ∀ d, ∀ url ∈ order.content.authorizations, M d (order.owner.draft url)) :
    Keeps R order.authorizations :=
  .mapM hR.toEffect fun url hurl => hR.load fun d => hM d url hurl

/-- The certificate of an order is downloaded. -/
theorem download {order : Order} (key : SigningKey)
    (hM : ∀ d url, order.content.certificateUrl? = some url → M d (order.owner.draft url)) :
    Keeps R (order.download key) := by
  unfold Order.download
  split
  · exact .throw hR.toEffect _
  · rename_i url hurl
    exact .bind hR.toEffect (hR.send fun d => hM d url hurl) fun _ => .pure hR.toEffect _

section Tracking

variable [Described α] {s : Session} {t : Tracked α}

/-- A resource is updated. -/
theorem update (hM : ∀ d, M d (t.owner.draft t.location)) :
    R s (Tracked.update.run (s, t)).2.1 := by
  rw [Tracked.run_update, Tracked.session_conclude]
  exact hR.send hM s

/-- A message about a resource is submitted. -/
theorem submit {url : String} {payload : Bytes}
    (hM : ∀ d, M d (t.owner.draft url (some payload))) :
    R s ((Tracked.submit url payload).run (s, t)).2.1 := by
  rw [Tracked.run_submit, Tracked.session_conclude]
  exact hR.send hM s

/-- A state of a resource is waited for. -/
theorem await [Staged α] (done : Status → Bool) (policy : RetryPolicy)
    (hM : ∀ d, M d (t.owner.draft t.location)) :
    R s ((Tracked.await done policy).run (s, t)).2.1 := by
  -- the resource stays where it is, so each update asks for it by the same message
  let E (st st' : Session × Tracked α) : Prop := st.2.Follows st'.2 ∧
    ((∀ d, M d (st.2.owner.draft st.2.location)) → R st.1 st'.1)
  have hE : Effect E := {
    refl := fun st => ⟨.refl, fun _ => hR.refl st.1⟩
    trans := fun h h' => ⟨h.1.trans h'.1, fun hm =>
      hR.trans (h.2 hm) (h'.2 (by rwa [h.1.owner_eq, h.1.location_eq]))⟩ }
  have hupdate : Keeps E (Tracked.pollable α).update := fun st =>
    ⟨Tracked.follows_update st, hR.update⟩
  have hawait : Keeps E (Tracked.await done policy : Tracking α Status) := by
    refine .bind hE (.get hE) fun st => ?_
    refine .bind hE (.bind hE (.get hE) fun _ => ?_) fun status => ?_
    · exact Pollable.keeps_pollFrom hE hupdate (fun d st => ⟨.refl, fun _ => hR.sleeping st.1 d⟩)
        done policy _ _ _
    · cases status with
      | some status => exact .pure hE status
      | none => exact .throw hE _
  exact (hawait (s, t)).2 hM

end Tracking

/-- An order is finalized. -/
theorem finalize {key : SigningKey} {s : Session} {order : Order}
    (hM : ∀ d der, Order.certificateRequest order key = .ok der →
      M d (order.owner.draft order.content.finalize
        (some (Resource.Finalization.codec.write (.ofRequest der))))) :
    R s ((Order.finalize key).run (s, order)).2.1 := by
  rcases Order.run_finalize key s order with ⟨e, h⟩ | ⟨der, hder, h⟩
  · rw [h]
    exact hR.refl s
  · rw [h]
    exact hR.submit fun d => hM d der hder

/-- An authorization is given up. -/
theorem deactivate {s : Session} {a : Authorization}
    (hM : ∀ d, M d (a.owner.draft a.location (some Authorization.deactivation))) :
    R s (Authorization.deactivate.run (s, a)).2.1 := by
  rw [Authorization.run_deactivate]
  exact hR.submit hM

/-- A challenge is triggered. -/
theorem triggerAs {ch : Challenge} (kind : Option ChallengeKind) {s : Session}
    (hM : ∀ d, M d (ch.owner.draft ch.location (some Challenge.readiness))) :
    R s ((Client.triggerAs ch kind).run (s, ch)).2.1 := by
  rcases Client.run_triggerAs ch kind s ch with ⟨e, h⟩ | h
  · rw [h]
    exact hR.refl s
  · rw [h]
    exact hR.submit hM

/-- What is found in the session is remembered in the client. -/
theorem remember {a : Action α} (ha : Keeps R a) {put : α → Client → Client}
    (hput : ∀ x c, (put x c).session = c.session) (outcome : Outcome) :
    Keeps (fun c c' => R c.session c'.session) (do
      let x ← Client.inSession a
      modify (put x)
      return outcome) := by
  refine .bind (hR.on Client.session) (.within (fun _ _ h => h) ha) fun x c => ?_
  show R c.session (put x c).session
  rw [hput]
  exact hR.refl c.session

/-- What is done for a command that drafts such messages only. -/
theorem work {c : Client} {command : Command} {w : Attempt Client Outcome}
    (hM : ∀ d draft, c.Drafts d draft command → M d draft) (h : c.work command = .ok w) :
    R c.session (w.run c).2.session := by
  cases command with
  | connect | showDirectory | refreshDirectory | showCapabilities | findEndpoint _
  | findEndpointIfAny _ | fetch _ => exact hR.toReading.work rfl h c
  | resetNonce =>
    cases h
    rw [run_map]
    exact hR.resetNonce c.session
  | register key contact =>
    cases h
    exact hR.remember (hR.register fun d => hM d _ rfl) (fun _ _ => by rfl) .done c
  | logIn pem contact =>
    cases h
    exact hR.remember (hR.logInAs fun key d hkey => hM d _ ⟨key, hkey, rfl⟩) (fun _ _ => by rfl)
      .done c
  | logInExisting pem =>
    cases h
    exact hR.remember (hR.logInAs fun key d hkey => hM d _ ⟨key, hkey, rfl⟩) (fun _ _ => by rfl)
      .done c
  | createOrder i request =>
    obtain ⟨a, ha, h⟩ := bind_eq_ok h
    cases h
    have ha := Need.orAt_eq_ok_iff.mp ha
    exact hR.remember (hR.create fun d content hcontent => hM d _ ⟨a, content, ha, hcontent, rfl⟩)
      (fun _ _ => by rfl) .done c
  | loadOrder i url | loadAuthorization i url =>
    obtain ⟨a, ha, h⟩ := bind_eq_ok h
    cases h
    have ha := Need.orAt_eq_ok_iff.mp ha
    exact hR.remember (hR.load fun d => hM d _ ⟨a, ha, rfl⟩) (fun _ _ => by rfl) .done c
  | loadChallenge i url =>
    obtain ⟨a, ha, h⟩ := bind_eq_ok h
    cases h
    have ha := Need.orAt_eq_ok_iff.mp ha
    exact hR.remember (hR.loadChallenge fun d => hM d _ ⟨a, ha, rfl⟩) (fun _ _ => by rfl) .done c
  | downloadCertificate i key =>
    obtain ⟨o, ho, h⟩ := bind_eq_ok h
    cases h
    have ho := Need.orAt_eq_ok_iff.mp ho
    exact hR.remember (hR.download key fun d url hurl => hM d _ ⟨o, url, ho, hurl, rfl⟩)
      (fun _ _ => by rfl) .done c
  | listAuthorizations i =>
    obtain ⟨o, ho, h⟩ := bind_eq_ok h
    cases h
    have ho := Need.orAt_eq_ok_iff.mp ho
    exact hR.remember (hR.authorizations fun d url hurl => hM d _ ⟨o, ho, url, hurl, rfl⟩)
      (fun _ _ => by rfl) .done c
  | listChallenges i =>
    obtain ⟨a, _, h⟩ := bind_eq_ok h
    cases h
    exact hR.refl c.session
  | updateAccount i =>
    obtain ⟨a, ha, h⟩ := bind_eq_ok h
    cases h
    rw [run_map]
    exact hR.update fun d => hM d _ ⟨a, Need.orAt_eq_ok_iff.mp ha, rfl⟩
  | updateOrder i =>
    obtain ⟨o, ho, h⟩ := bind_eq_ok h
    cases h
    rw [run_map]
    exact hR.update fun d => hM d _ ⟨o, Need.orAt_eq_ok_iff.mp ho, rfl⟩
  | updateAuthorization i =>
    obtain ⟨a, ha, h⟩ := bind_eq_ok h
    cases h
    rw [run_map]
    exact hR.update fun d => hM d _ ⟨a, Need.orAt_eq_ok_iff.mp ha, rfl⟩
  | updateChallenge i =>
    obtain ⟨ch, hch, h⟩ := bind_eq_ok h
    cases h
    rw [run_map]
    exact hR.update fun d => hM d _ ⟨ch, Need.orAt_eq_ok_iff.mp hch, rfl⟩
  | awaitReady i policy | awaitOrder i policy =>
    obtain ⟨o, ho, h⟩ := bind_eq_ok h
    cases h
    rw [run_map]
    exact hR.await _ policy fun d => hM d _ ⟨o, Need.orAt_eq_ok_iff.mp ho, rfl⟩
  | awaitAuthorization i policy =>
    obtain ⟨a, ha, h⟩ := bind_eq_ok h
    cases h
    rw [run_map]
    exact hR.await _ policy fun d => hM d _ ⟨a, Need.orAt_eq_ok_iff.mp ha, rfl⟩
  | awaitChallenge i policy =>
    obtain ⟨ch, hch, h⟩ := bind_eq_ok h
    cases h
    rw [run_map]
    exact hR.await _ policy fun d => hM d _ ⟨ch, Need.orAt_eq_ok_iff.mp hch, rfl⟩
  | finalizeOrder i key =>
    obtain ⟨o, ho, h⟩ := bind_eq_ok h
    cases h
    rw [run_map]
    have ho := Need.orAt_eq_ok_iff.mp ho
    exact hR.finalize fun d der hder => hM d _ ⟨o, der, ho, hder, rfl⟩
  | deactivateAuthorization i =>
    obtain ⟨a, ha, h⟩ := bind_eq_ok h
    cases h
    rw [run_map]
    exact hR.deactivate fun d => hM d _ ⟨a, Need.orAt_eq_ok_iff.mp ha, rfl⟩
  | triggerChallenge i kind =>
    obtain ⟨ch, hch, h⟩ := bind_eq_ok h
    cases h
    rw [run_map]
    exact hR.triggerAs kind fun d => hM d _ ⟨ch, Need.orAt_eq_ok_iff.mp hch, rfl⟩

/-- Every command that drafts such messages only has the effect. -/
theorem perform {c : Client} {command : Command}
    (hM : ∀ d draft, c.Drafts d draft command → M d draft) :
    R c.session (c.perform command).2.session :=
  Client.perform_ind (P := fun c' => R c.session c'.session) (hR.refl c.session)
    fun _ hw => hR.work hM hw

omit hR in
/-- An effect that does not depend on the messages is that of every run. -/
theorem after (hR : Discipline (fun _ _ => True) R) (c : Client) (commands : List Command) :
    R c.session (c.after commands).session := by
  unfold Client.after
  induction commands generalizing c with
  | nil => exact hR.refl c.session
  | cons command commands ih =>
    exact hR.trans (hR.perform fun _ _ _ => trivial) (ih (c.perform command).2)

end Discipline

end Session

end AcmeClient
