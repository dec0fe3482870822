import AcmeClient.Proofs.Challenge.RecordValue
import AcmeClient.Proofs.Client.Refresh
import AcmeClient.Proofs.Client.Signatures
import AcmeClient.Proofs.Url.Reference

/-!
# Where the URL of an account comes from

The URL of an account is the location in the answer to a login, relative to the place for accounts.
All that a client works on in a run belongs to accounts that got their URLs in this way, so its
messages and its records in the DNS name such URLs and no others.
-/

namespace AcmeClient

open Attempt Http

/-- A location that must be there is the one that is found. -/
theorem Http.Response.location?_of_location_eq_ok {r : Response} {location : String}
    (h : r.location = .ok location) : r.location? = some location := by
  unfold Response.location at h
  split at h
  · cases h
    assumption
  · cases h

/-- Whether an exchange is a login: a message to the place for accounts, signed with a key that it
carries itself, and a success whose location is the URL of the account. -/
structure Http.Exchange.LogsInto (e : Exchange) (url : String) (owner : Credentials) : Prop where
  method : e.request.method = .post
  address : address? url = some e.request.url
  message : ∃ nonce payload,
    e.request.message = some (({ key := owner.key } : Signer).sign url nonce payload)
  reply : ∃ reply, e.reply = some reply ∧ reply.status.isSuccess = true ∧
    (⟨url, reply⟩ : Response).location? = some owner.location

/-- Whether an account got its URL from a login among exchanges, at a place for accounts that a
directory among them names. -/
def Http.IsLoggedInto (l : List Exchange) (owner : Credentials) : Prop :=
  ∃ e ∈ l, ∃ d, Delivers l d ∧ e.LogsInto d.newAccount owner

/-- A login stays one as exchanges are added. -/
theorem Http.IsLoggedInto.append {l : List Exchange} {owner : Credentials}
    (h : IsLoggedInto l owner) (more : List Exchange) : IsLoggedInto (l ++ more) owner := by
  obtain ⟨e, he, d, hd, h⟩ := h
  exact ⟨e, List.mem_append_left _ he, d, hd.append more, h⟩

namespace Session

variable {s t u : Session}

/-- The message whose answer was received is one that could be sent. -/
theorem Receives.message {M : Resource.Directory → Draft → Prop} {x : Response}
    (h : s.Receives x t) (hposts : s.Posts M t) : ∃ sent request d draft nonce,
      t.wire.exchanges = s.wire.exchanges ++ sent ++ [⟨request, some x.reply⟩] ∧
      request.method = .post ∧ address? x.url = some request.url ∧
      x.reply.status.isSuccess = true ∧ M d draft ∧
      request.message = some (draft.sign nonce) := by
  obtain ⟨sent, request, ht, hmethod, haddress, hsuccess⟩ := h
  obtain ⟨sent', ht', hcarries⟩ := hposts.exchanges
  obtain rfl : sent' = sent ++ [⟨request, some x.reply⟩] := by
    rw [ht', List.append_assoc] at ht
    exact List.append_cancel_left ht
  cases hcarries _ (List.mem_append_right _ (List.mem_singleton_self _)) with
  | nothing isPost _ => simp [Exchange.isPost, hmethod] at isPost
  | message draft nonce allowed url message =>
    obtain ⟨d, _, hdraft⟩ := allowed
    exact ⟨sent, request, d, draft, nonce, ht, hmethod, haddress, hsuccess, hdraft, message⟩

/-- An account that is found got its URL from the exchange just made. -/
theorem logsInto_of_account_eq_ok {key : SigningKey} {wanted : Resource.Account} {a : Account}
    (h : (Session.account key wanted).run s = (.ok a, t)) :
    a.owner.key = key ∧ a.owner.location = a.location ∧ ∃ sent e d, s.Knows t d ∧
      t.wire.exchanges = s.wire.exchanges ++ sent ++ [e] ∧ e.LogsInto d.newAccount a.owner := by
  obtain ⟨url, u, hu, h⟩ := run_bind_eq_ok h
  obtain ⟨x, v, hx, h⟩ := run_bind_eq_ok h
  obtain ⟨location, _, hlocation, h⟩ := run_bind_eq_ok h
  obtain ⟨content, _, hcontent, h⟩ := run_bind_eq_ok h
  cases h
  obtain ⟨hfound, rfl⟩ := Prod.mk.inj hlocation
  obtain ⟨_, rfl⟩ := Prod.mk.inj hcontent
  obtain ⟨d, hd, hurl⟩ := endpoint_eq_ok hu
  obtain rfl := Option.some.inj hurl
  -- the directory at hand says where to send the message, and its answer comes last
  have hbefore := ((Posts.discipline fun _ _ => True).toReading.endpoint .newAccount).of_run hu
  have hafter := ((Posts.discipline fun _ draft => draft = wanted.draft key d.content).send
    fun _ => rfl).of_run hx
  obtain ⟨hxurl, hreceives⟩ := receives_of_send_eq_ok hx
  obtain ⟨sent, request, _, draft, nonce, hsent, hmethod, haddress, hsuccess, rfl, hmessage⟩ :=
    hreceives.message hafter
  obtain ⟨earlier, hearlier, _⟩ := hbefore.exchanges
  rw [hxurl] at haddress
  refine ⟨rfl, rfl, earlier ++ sent, ⟨request, some x.reply⟩, d.content,
    hbefore.knows hafter (Or.inl ⟨d, hd, rfl⟩), ?_, hmethod, haddress, ⟨nonce, _, hmessage⟩,
    x.reply, rfl, hsuccess, ?_⟩
  · rw [hsent, hearlier]
    simp only [List.append_assoc]
  · rw [← hxurl]
    exact Response.location?_of_location_eq_ok hfound

end Session

namespace Client

variable {c : Client} {command : Command} {key : SigningKey}

/-- Logging in fails and leaves all resources as they are, or comes to the account that is found. -/
theorem perform_enter {login : Action Account} {wanted : Resource.Account}
    (hwork : c.work command = .ok (enter login))
    (hrun : login.run c.session = (Session.account key wanted).run c.session) :
    (∃ e s, c.perform command = (.failed e, { c with session := s })) ∨
    ∃ a s, (Session.account key wanted).run c.session = (.ok a, s) ∧
      c.perform command =
        (.done .done, { c with session := s, accounts := c.accounts ++ [a] }) := by
  rw [perform, hwork]
  dsimp only
  unfold enter inSession
  rw [run_bind, run_within, hrun]
  rcases (Session.account key wanted).run c.session with ⟨e | a, s⟩
  · exact .inl ⟨e, s, rfl⟩
  · exact .inr ⟨a, s, rfl, rfl⟩

/-- A command with a key to log in with asks for the account of that key. -/
theorem perform_login (h : command.loginKey? = some key) :
    (∃ e s, c.perform command = (.failed e, { c with session := s })) ∨
    ∃ wanted a s, (Session.account key wanted).run c.session = (.ok a, s) ∧
      c.perform command =
        (.done .done, { c with session := s, accounts := c.accounts ++ [a] }) := by
  have hread (pem : String) (wanted : Resource.Account)
      (hkey : (Session.accountKey pem).toOption = some key) :
      (do
        let key ← Session.accountKey pem
        Session.account key wanted : Action Account).run c.session =
          (Session.account key wanted).run c.session := by
    cases hpem : Session.accountKey pem with
    | error e => simp [hpem, Except.toOption] at hkey
    | ok found =>
      obtain rfl : found = key := by simpa [hpem, Except.toOption] using hkey
      rfl
  cases command with
  | register key' contact =>
    obtain rfl := Option.some.inj h
    exact (perform_enter rfl rfl).imp_right fun hdone => ⟨_, hdone⟩
  | logIn pem contact =>
    exact (perform_enter rfl (hread pem (Session.newAccount contact) h)).imp_right
      fun hdone => ⟨_, hdone⟩
  | logInExisting pem =>
    exact (perform_enter rfl (hread pem Session.existingAccount h)).imp_right
      fun hdone => ⟨_, hdone⟩
  | _ => cases h

/-- The account that a login comes to got its URL from the exchange just made. -/
theorem logsInto_of_perform (h : command.loginKey? = some key)
    (hdone : (c.perform command).1.isDone = true) :
    ∃ a sent e d, (c.perform command).2.accounts = c.accounts ++ [a] ∧ a.owner.key = key ∧
      a.owner.location = a.location ∧ c.session.Knows (c.perform command).2.session d ∧
      (c.perform command).2.session.wire.exchanges = c.session.wire.exchanges ++ sent ++ [e] ∧
      e.LogsInto d.newAccount a.owner := by
  rcases perform_login h with ⟨e, s, hs⟩ | ⟨wanted, a, s, hrun, hs⟩
  · rw [hs] at hdone
    cases hdone
  · obtain ⟨hkey, hlocation, sent, e, d, hd, hsent, hlogs⟩ :=
      Session.logsInto_of_account_eq_ok hrun
    rw [hs]
    exact ⟨a, sent, e, d, rfl, hkey, hlocation, hd, hsent, hlogs⟩

/-- What a client works on after a command belongs to accounts that got their URLs from logins. -/
theorem isOwnedBy_perform {commands : List Command} (hc : c.IsNew)
    (h : (c.after commands).IsOwnedBy
      (IsLoggedInto (c.after commands).session.wire.exchanges)) (command : Command) :
    ((c.after commands).perform command).2.IsOwnedBy
      (IsLoggedInto ((c.after commands).perform command).2.session.wire.exchanges) := by
  have hposts := (c.after commands).posts_perform command
  obtain ⟨sent, hsent, _⟩ := hposts.exchanges
  have hkept : (c.after commands).IsOwnedBy
      (IsLoggedInto ((c.after commands).perform command).2.session.wire.exchanges) :=
    h.imp fun owner howner => hsent ▸ howner.append sent
  refine hkept.of_grows (grows_perform _ command) fun a ha hkey _ => ?_
  -- the account is one from before, or the one that the login comes to
  rcases perform_login (c := c.after commands) hkey with ⟨e, s, hs⟩ | ⟨_, _, s, _, hs⟩
  · rw [hs] at ha
    exact (hkept.accounts a ha).1
  · obtain ⟨a', sent', e, d, haccounts, _, _, hd, hsent', hlogs⟩ :=
      logsInto_of_perform (c := c.after commands) hkey (by rw [hs]; rfl)
    rw [haccounts] at ha
    rcases List.mem_append.mp ha with ha | ha
    · exact (hkept.accounts a ha).1
    · obtain rfl := List.mem_singleton.mp ha
      refine ⟨e, ?_, d, delivers_of_knows hc commands hposts hd, hlogs⟩
      rw [hsent']
      exact List.mem_append_right _ (List.mem_singleton_self _)

/-- All that a client works on in a run belongs to accounts that got their URLs from logins. -/
theorem isOwnedBy_isLoggedInto (hc : c.IsNew) (commands : List Command) :
    (c.after commands).IsOwnedBy (IsLoggedInto (c.after commands).session.wire.exchanges) := by
  induction commands using List.reverseRecOn with
  | nil => exact .of_isNew hc
  | append_singleton commands command ih =>
    rw [after_concat]
    exact isOwnedBy_perform hc ih command

/-- A message of a command that does not log in names an account by its URL: the one that owns what
the command is done with. -/
theorem reference_of_post (hkey : command.loginKey? = none) : ∃ sent,
    (c.perform command).2.session.wire.exchanges = c.session.wire.exchanges ++ sent ∧
      ∀ e ∈ sent, e.isPost = true → ∃ owner message, c.ownerFor command = some owner ∧
        e.request.message = some message ∧ message.header.reference = .account owner.location := by
  obtain ⟨sent, hsent, hcarries⟩ := (c.posts_perform command).exchanges
  refine ⟨sent, hsent, fun e he hpost => ?_⟩
  cases hcarries e he with
  | nothing isPost _ =>
    rw [isPost] at hpost
    cases hpost
  | message draft nonce allowed url message =>
    obtain ⟨d, _, hdraft⟩ := allowed
    have hsigner := signer_of_drafts hdraft
    rw [hkey] at hsigner
    obtain ⟨owner, howner, hsigner⟩ := hsigner
    refine ⟨owner, draft.sign nonce, howner, message, ?_⟩
    simp only [Draft.sign, Signer.sign, Jws.sign, Signer.reference, hsigner, Credentials.signer]

end Client

/-- The URL of an account in a login is the location as it is written, if that is one with a scheme
and two slashes, exactly if it is in normal form. -/
theorem Http.Exchange.LogsInto.location_eq_header_iff {e : Exchange} {url : String}
    {owner : Credentials} (h : e.LogsInto url owner) {text : String} {reply : Reply}
    (hreply : e.reply = some reply) (hheader : reply.header? "location" = some text)
    (habsolute : Url.IsAbsolute text) : owner.location = text ↔ Url.IsNormal text := by
  obtain ⟨reply', hreply', _, hlocation⟩ := h.reply
  obtain rfl := Option.some.inj (hreply'.symm.trans hreply)
  have hbase : (Url.parse url).toOption.isSome := by
    have haddress := h.address
    unfold address? at haddress
    split at haddress
    · rename_i u hu
      rw [hu]
      rfl
    · cases haddress
  rw [← Response.location?_eq_header_iff (r := ⟨url, reply'⟩) hbase hheader habsolute, hlocation,
    Option.some.injEq]

namespace Client

/-- In a run from a new client, a login that is done comes to an account whose URL is the location
in the answer just received, and stays so. Each message that does not log in names the account that
owns what its command is done with, by a URL that came from a login in this way, and so does each
record of a challenge. Such a URL is the location as it is written, if that has a scheme and two
slashes, exactly if it is in normal form. -/
theorem account_url_is_location {c : Client} (hc : c.IsNew) (commands : List Command) :
    (∀ command key, command.loginKey? = some key →
      ((c.after commands).perform command).1.isDone = true →
      ∃ a sent e d, ((c.after commands).perform command).2.accounts =
          (c.after commands).accounts ++ [a] ∧
        a.owner.key = key ∧ a.owner.location = a.location ∧
        ((c.after commands).perform command).2.session.wire.exchanges =
          (c.after commands).session.wire.exchanges ++ sent ++ [e] ∧
        Delivers ((c.after commands).perform command).2.session.wire.exchanges d ∧
        e.LogsInto d.newAccount a.owner ∧
        ∀ later, ∃ a', (((c.after commands).perform command).2.after later).accounts[
            (c.after commands).accounts.length]? = some a' ∧
          a'.owner = a.owner ∧ a'.location = a.location) ∧
    (∀ command, command.loginKey? = none → ∃ sent,
      ((c.after commands).perform command).2.session.wire.exchanges =
        (c.after commands).session.wire.exchanges ++ sent ∧
      ∀ e ∈ sent, e.isPost = true → ∃ owner message,
        (c.after commands).ownerFor command = some owner ∧ (c.after commands).HasAccount owner ∧
        IsLoggedInto (c.after commands).session.wire.exchanges owner ∧
        e.request.message = some message ∧
        message.header.reference = .account owner.location) ∧
    (∀ ch ∈ (c.after commands).challenges, (c.after commands).HasAccount ch.owner ∧
      IsLoggedInto (c.after commands).session.wire.exchanges ch.owner ∧
      ∀ issuer policy until? name, PersistentProof.issuerName issuer = .ok name →
        PersistentProof.record ch issuer policy until? =
          .ok ("; ".intercalate (PersistentProof.fields name ch.owner.location policy until?))) ∧
    ∀ e url owner, Exchange.LogsInto e url owner → ∀ reply text, e.reply = some reply →
      reply.header? "location" = some text → Url.IsAbsolute text →
      (owner.location = text ↔ Url.IsNormal text) := by
  have hlogged := isOwnedBy_isLoggedInto hc commands
  have haccount := isOwnedBy_after hc commands
  refine ⟨fun command key hkey hdone => ?_, fun command hkey => ?_, fun ch hch => ?_,
    fun e url owner h reply text hreply hheader habsolute =>
      h.location_eq_header_iff hreply hheader habsolute⟩
  · obtain ⟨a, sent, e, d, ha, hk, hl, hd, hsent, hlogs⟩ := logsInto_of_perform hkey hdone
    have hposts := (c.after commands).posts_perform command
    refine ⟨a, sent, e, d, ha, hk, hl, hsent, delivers_of_knows hc commands hposts hd, hlogs,
      fun later => ?_⟩
    obtain ⟨a', ha', hfollows⟩ := (Extends.after ((c.after commands).perform command).2 later)
      |>.accounts (c.after commands).accounts.length a (by rw [ha, List.getElem?_concat_length])
    exact ⟨a', ha', hfollows.owner_eq, hfollows.location_eq⟩
  · obtain ⟨sent, hsent, hposted⟩ := reference_of_post (c := c.after commands) hkey
    refine ⟨sent, hsent, fun e he hpost => ?_⟩
    obtain ⟨owner, message, howner, hmessage, hreference⟩ := hposted e he hpost
    exact ⟨owner, message, howner, haccount.ownerFor howner, hlogged.ownerFor howner, hmessage,
      hreference⟩
  · exact ⟨haccount.challenges ch hch, hlogged.challenges ch hch,
      fun issuer policy until? name hname => PersistentProof.recordValue_eq hname⟩

/-- The case of a new client that registers a key and is told a location in normal form. -/
theorem account_url_is_location_localhost :
    let directory : Resource.Directory := {
      newNonce := "http://localhost/nonce", newAccount := "http://localhost/account"
      newOrder := "http://localhost/order" }
    let listing : Reply := { status := ⟨200⟩, body := Resource.Directory.codec.write directory }
    let grant : Reply := { status := ⟨200⟩, headers := [("replay-nonce", Utf8.encode "bm9uY2U")] }
    let created : Reply := {
      status := ⟨201⟩, headers := [("location", Utf8.encode "http://localhost/account/1")]
      body := Json.writeObject [] }
    let c : Client := {
      session := {
        uri := { scheme := "http", hasAuthority := true, host := some (.domain "localhost") }
        provider := .generic, wire := { replies := [listing, grant, created] } } }
    let command : Command := .register ⟨1, by decide, by decide⟩ none
    c.IsNew ∧ (c.perform command).1.isDone = true ∧
      ∃ (a : Account) (e : Exchange) (d : Resource.Directory),
        (c.perform command).2.accounts = [a] ∧ e.LogsInto d.newAccount a.owner := by
  intro directory listing grant created c command
  have hc : c.IsNew := ⟨⟨rfl, rfl, rfl⟩, rfl, rfl, rfl, rfl⟩
  have hdone : (c.perform command).1.isDone = true := by decide +kernel
  have hnil : c.after [] = c := rfl
  have hlogin := (account_url_is_location hc []).1 command
  rw [hnil] at hlogin
  obtain ⟨a, _, e, d, ha, _, _, _, _, hlogs, _⟩ := hlogin _ rfl hdone
  exact ⟨hc, hdone, a, e, d, ha, hlogs⟩

/-- A location with capital letters and the port that its scheme implies is written otherwise in the
URL of the account. -/
theorem account_url_is_rewritten :
    let directory : Resource.Directory := {
      newNonce := "http://localhost/nonce", newAccount := "http://localhost/account"
      newOrder := "http://localhost/order" }
    let listing : Reply := { status := ⟨200⟩, body := Resource.Directory.codec.write directory }
    let grant : Reply := { status := ⟨200⟩, headers := [("replay-nonce", Utf8.encode "bm9uY2U")] }
    let created : Reply := {
      status := ⟨201⟩, headers := [("location", Utf8.encode "HTTP://LOCALHOST:80/account/1")]
      body := Json.writeObject [] }
    let c : Client := {
      session := {
        uri := { scheme := "http", hasAuthority := true, host := some (.domain "localhost") }
        provider := .generic, wire := { replies := [listing, grant, created] } } }
    created.header? "location" = some "HTTP://LOCALHOST:80/account/1" ∧
      (c.perform (.register ⟨1, by decide, by decide⟩ none)).2.accounts.map (·.location) =
        ["http://localhost/account/1"] := by
  decide +kernel

end Client

end AcmeClient
