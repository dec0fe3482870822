import AcmeClient.Proofs.Client.Discipline
import AcmeClient.Proofs.Session.Spending

/-!
# Nonces are used once

The nonce in the slot is always one since whose arrival no message was sent, and a message takes
it out. So over every run each message has a nonce of its own.
-/

namespace AcmeClient

open Attempt Http

namespace Session

/-- What holds of a session at all times: its directory was fetched over the wire, its nonce is
unused, and all messages have taken unused ones. -/
structure Sound (s : Session) : Prop where
  listed : ∀ d address, s.directory = some d → address? d.content.newNonce = some address →
    Lists s.wire.exchanges address
  unused : ∀ nonce, s.nonce = some nonce → ∃ k, Unused s.wire.exchanges k nonce
  spent : Spent s.wire.exchanges

namespace Sound

variable {s : Session}

/-- Requests that are no messages keep a session sound. -/
theorem exchanged (h : s.Sound) (request : Request) (reply : Option Reply)
    (hrequest : (⟨request, reply⟩ : Exchange).isPost = false) :
    (s.exchanged request reply).Sound where
  listed d address hd ha := (h.listed d address hd ha).append _
  unused nonce hn := by
    obtain ⟨k, hk⟩ := h.unused nonce hn
    exact ⟨k, hk.append hrequest⟩
  spent := h.spent.append fun hpost => by simp [hrequest] at hpost

/-- Fetching the directory keeps a session sound. -/
theorem refreshed (h : s.Sound) {r : Except Error CachedDirectory} {t : Session}
    (ht : Refreshed s r t) : t.Sound := by
  cases ht with
  | unsent _ connectors shared => exact ⟨h.listed, h.unused, h.spent⟩
  | kept _ connectors shared c address reply =>
    have hs : (s.reconnected connectors shared).Sound := ⟨h.listed, h.unused, h.spent⟩
    exact hs.exchanged _ reply rfl
  | replaced d connectors shared c address reply success decoded =>
    have hs : (s.reconnected connectors shared).Sound := ⟨h.listed, h.unused, h.spent⟩
    have ht := hs.exchanged (c.request .get address s.validators none) (some reply) rfl
    refine ⟨?_, ht.unused, ht.spent⟩
    intro d' address' hd ha
    cases hd
    exact ⟨_, List.mem_append_right _ (List.mem_singleton_self _), rfl, reply, rfl, success,
      d.content, decoded, ha⟩

/-- Putting a nonce just granted into the slot keeps a session sound. -/
theorem reset (h : s.Sound) (c : Connector) {d : CachedDirectory} (hd : s.directory = some d) :
    ((do
      let nonce ← fetchNonce c d.content.newNonce
      modify (·.withNonce (some nonce)) : Action Unit).run s).2.Sound := by
  rw [run_bind]
  rcases fetchNonce_cases c d.content.newNonce s with ⟨_, hf⟩ | ⟨_, address, reply, ha, hf⟩
  · rw [hf]
    exact h
  · have ht := h.exchanged (c.request .head address {} none) reply rfl
    have hgranted := grantedNonce?_eq_toOption d.content.newNonce
      (c.request .head address {} none) reply
    rw [hf]
    cases hg : grant d.content.newNonce reply with
    | error e => exact ht
    | ok nonce =>
      rw [hg] at hgranted
      refine ⟨ht.listed, ?_, ht.spent⟩
      intro nonce' hn
      cases hn
      exact ⟨_, unused_of_isHead rfl hgranted (h.listed d address hd ha)⟩

/-- After the request for a nonce in a round, the nonce for the message is unused. -/
theorem head (h : s.Sound) {c : Connector} {url : String} {payload : Option Bytes}
    {signer : Signer} {isConnected : Bool} {r : Round} {d : CachedDirectory}
    (hd : s.directory = some d)
    (hr : r.Sends c d.content.newNonce url payload signer s.nonce isConnected) :
    Spent (s.wire.exchanges ++ r.head.toList) ∧ ∀ nonce, r.nonce? s.nonce = some nonce →
      ∃ k, Unused (s.wire.exchanges ++ r.head.toList) k nonce := by
  cases hhead : r.head with
  | none =>
    simp only [Option.toList_none, List.append_nil]
    refine ⟨h.spent, fun nonce hn => h.unused nonce ?_⟩
    simpa [Round.nonce?, hhead] using hn
  | some e =>
    obtain ⟨hslot, _⟩ := hr.head_iff.mp (by rw [hhead]; rfl)
    obtain ⟨address, ha, hrequest⟩ := hr.head_request e hhead
    have hmethod : e.request.method = .head := by rw [hrequest]; rfl
    have hurl : e.request.url = address := by rw [hrequest]; rfl
    refine ⟨h.spent.append fun hpost => by simp [Exchange.isPost, hmethod] at hpost, ?_⟩
    intro nonce hn
    simp only [Round.nonce?, hslot, hhead, Option.orElse_none, Option.bind_some] at hn
    exact ⟨_, unused_of_isHead hmethod hn (hurl ▸ h.listed d address hd ha)⟩

/-- A round keeps a session sound. -/
theorem afterRound (h : s.Sound) {c : Connector} {url : String} {payload : Option Bytes}
    {signer : Signer} {isConnected : Bool} {r : Round} {d : CachedDirectory} {wire : Wire}
    (hd : s.directory = some d)
    (hr : r.Sends c d.content.newNonce url payload signer s.nonce isConnected)
    (hwire : wire.exchanges = s.wire.exchanges ++ r.exchanges) :
    (s.afterRound wire r).Sound := by
  obtain ⟨hspent, hunused⟩ := h.head hd hr
  refine ⟨?_, ?_, ?_⟩
  · intro d' address hd' ha
    rw [wire_afterRound, hwire]
    exact (h.listed d' address hd' ha).append _
  all_goals
    simp only [nonce_afterRound, wire_afterRound, hwire, Round.exchanges, ← List.append_assoc]
    cases hpost : r.post with
    | none => simp_all [Round.slot]
    | some x => ?_
  · obtain ⟨address, nonce, _, hnonce, hrequest⟩ := hr.post_request x hpost
    intro nonce' hn
    have hx : x.isPost = true := by rw [Exchange.isPost, hrequest]; rfl
    exact ⟨_, unused_of_isPost hx (by simpa [Round.slot, hpost] using hn)⟩
  · obtain ⟨address, nonce, _, hnonce, hrequest⟩ := hr.post_request x hpost
    obtain ⟨k, hk⟩ := hunused nonce hnonce
    exact hspent.append fun _ => ⟨_, k, by rw [hrequest]; rfl, hk⟩

/-- All that is done in a session keeps it sound. -/
theorem discipline : Discipline (fun _ _ => True) fun s t => s.Sound → t.Sound where
  refl _ h := h
  trans h h' hs := h' (h hs)
  connecting s h := by
    obtain ⟨_, connectors, shared, hrun⟩ := run_connect s
    rw [hrun]
    exact ⟨h.listed, h.unused, h.spent⟩
  refreshing s h := h.refreshed (refreshed_refreshDirectory s)
  fetching c url s h := by
    rcases ask_cases c .get url {} none s with ⟨_, ha⟩ | ⟨_, address, reply, _, ha⟩
    · rwa [ha]
    · rw [ha]
      exact h.exchanged _ reply rfl
  resetting c hd h := h.reset c hd
  sending c hd _ h := by
    obtain ⟨r, wire, hr, _, hwire, hrun⟩ := sends_sendOnce c _ _ _ _ _
    rw [hrun]
    exact h.afterRound hd hr hwire
  sleeping _ _ h := ⟨h.listed, h.unused, h.spent⟩

end Sound

/-- Reading leaves the nonce alone. -/
theorem reading_nonce : Reading fun s t : Session => t.nonce = s.nonce where
  refl _ := rfl
  trans h h' := h'.trans h
  connecting s := by
    obtain ⟨_, connectors, shared, hrun⟩ := run_connect s
    rw [hrun]
    rfl
  refreshing s := (refreshed_refreshDirectory s).nonce_eq
  fetching c url s := by
    rcases ask_cases c .get url {} none s with ⟨_, ha⟩ | ⟨_, address, reply, _, ha⟩ <;> rw [ha]
    rfl

/-- A nonce that cannot be replaced is kept. -/
theorem nonce_of_resetNonce_eq_error {s t : Session} {e : Error}
    (h : resetNonce.run s = (.error e, t)) : t.nonce = s.nonce := by
  rcases run_bind_eq_error h with h | ⟨c, u, hc, h⟩
  · exact reading_nonce.connecting.of_run h
  have hu := reading_nonce.connecting.of_run hc
  rcases run_bind_eq_error h with h | ⟨url, v, hv, h⟩
  · exact ((reading_nonce.endpoint .newNonce).of_run h).trans hu
  have hv := (reading_nonce.endpoint .newNonce).of_run hv
  rcases run_bind_eq_error h with h | ⟨nonce, w, _, h⟩
  · rcases fetchNonce_cases c url v with ⟨_, hf⟩ | ⟨_, address, reply, _, hf⟩
    all_goals
      obtain ⟨_, rfl⟩ := Prod.mk.inj (hf.symm.trans h)
      exact hv.trans hu
  · cases h

/-- A message without response leaves no nonce. -/
theorem nonce_of_sendOnce_eq_error {c : Connector} {nonceUrl url : String}
    {payload : Option Bytes} {signer : Signer} {s t : Session} {e : Error}
    (h : (sendOnce c nonceUrl url payload signer).run s = (.error e, t)) : t.nonce = none := by
  obtain ⟨r, wire, _, _, _, hrun⟩ := sends_sendOnce c nonceUrl url payload signer s
  obtain ⟨he, rfl⟩ := Prod.mk.inj (hrun.symm.trans h)
  rw [nonce_afterRound, Round.slot]
  cases hpost : r.post with
  | none => rfl
  | some x =>
    cases hreply : x.reply with
    | none => simp [Exchange.nonce?, hreply]
    | some reply => simp [Round.response, hpost, hreply, arrival] at he

/-- A session in which nothing has been asked for. -/
structure IsNew (s : Session) : Prop where
  exchanges : s.wire.exchanges = []
  nonce : s.nonce = none
  directory : s.directory = none

/-- A session with a server starts new. -/
theorem isNew_of_ofUri {providers : List Provider} {uri : String} {settings : NetworkSettings}
    {s : Session} (h : ofUri providers uri settings = .ok s) : s.IsNew := by
  obtain ⟨⟨uri, provider⟩, _, h⟩ := bind_eq_ok h
  cases h
  exact ⟨rfl, rfl, rfl⟩

/-- A new session is sound. -/
theorem IsNew.sound {s : Session} (h : s.IsNew) : s.Sound where
  listed d _ hd _ := by simp [h.directory] at hd
  unused nonce hn := by simp [h.nonce] at hn
  spent i x hx _ := by simp [h.exchanges] at hx

/-- What is promised of the nonces in a session. -/
structure NonceLaw (s : Session) : Prop where
  /-- Every message carries the nonce of an earlier response, and no two that of the same one. -/
  source : ∃ source : Nat → Nat,
    (∀ i x, s.wire.exchanges[i]? = some x → x.isPost = true → source i < i ∧
      ∃ m, x.request.message = some m ∧
        Brings s.wire.exchanges (source i) m.header.nonce) ∧
    ∀ i j x y, s.wire.exchanges[i]? = some x → x.isPost = true →
      s.wire.exchanges[j]? = some y → y.isPost = true → source i = source j → i = j
  /-- The nonce in the slot came with a response since which no message was sent. -/
  slot : ∀ nonce, s.nonce = some nonce →
    Base64.isUrlText nonce = true ∧ ∃ k, Unused s.wire.exchanges k nonce
  /-- A message that was lost leaves no nonce. -/
  lost : ∀ x, s.wire.exchanges.getLast? = some x → x.isPost = true → x.reply = none →
    s.nonce = none

/-- What is promised of nonces holds in sound sessions. -/
theorem Sound.nonceLaw {s : Session} (h : s.Sound) : s.NonceLaw where
  source := h.spent.exists_source
  slot nonce hn := by
    obtain ⟨k, hk⟩ := h.unused nonce hn
    exact ⟨hk.1.isUrlText, k, hk⟩
  lost x hlast hx hlost := by
    cases hn : s.nonce with
    | none => rfl
    | some nonce =>
      obtain ⟨k, ⟨e, he, hnonce, _⟩, hnone⟩ := h.unused nonce hn
      rw [List.getLast?_eq_getElem?] at hlast
      have hk := (List.getElem?_eq_some_iff.mp he).1
      by_cases hlt : k < s.wire.exchanges.length - 1
      · have hpost := hnone _ x hlt hlast
        rw [hx] at hpost
        cases hpost
      · have heq : k = s.wire.exchanges.length - 1 := by omega
        rw [heq, hlast] at he
        cases he
        simp [Exchange.nonce?, hlost] at hnonce

end Session

namespace Client

/-- What is left of a command that fails is left by what is done for it. -/
theorem work_run_of_perform_eq_failed {c c' : Client} {command : Command} {e : Error}
    (h : c.perform command = (.failed e, c')) :
    ∃ w, c.work command = .ok w ∧ w.run c = (.error e, c') := by
  unfold perform at h
  cases hw : c.work command with
  | error need => simp [hw] at h
  | ok w =>
    refine ⟨w, rfl, ?_⟩
    simp only [hw] at h
    rcases hrun : w.run c with ⟨_ | outcome, d⟩
    · simp only [hrun, Prod.mk.injEq, Ending.failed.injEq] at h
      rw [h.1, h.2]
    · simp [hrun] at h

/-- A command that cannot replace the nonce keeps it. -/
theorem nonce_of_perform_resetNonce_eq_failed {c c' : Client} {e : Error}
    (h : c.perform .resetNonce = (.failed e, c')) : c'.session.nonce = c.session.nonce := by
  obtain ⟨w, hw, hrun⟩ := work_run_of_perform_eq_failed h
  cases hw
  rw [run_map] at hrun
  obtain ⟨hend, rfl⟩ := Prod.mk.inj hrun
  rcases hreset : Session.resetNonce.run c.session with ⟨e' | _, s⟩
  · simpa [inSession, hreset] using Session.nonce_of_resetNonce_eq_error hreset
  · simp [inSession, hreset, Except.map] at hend

/-- After every run, each message has taken a nonce of its own from an earlier response, and so
will the next one. What is no message leaves the nonce alone, and so does a failed attempt to
replace it; a message without response leaves none. -/
theorem nonces_used_once (c : Client) (hc : c.session.IsNew) (commands : List Command) :
    (c.after commands).session.NonceLaw ∧
    (∀ command : Command, command.isUnsigned = true →
      ((c.after commands).perform command).2.session.nonce = (c.after commands).session.nonce) ∧
    (∀ e c', (c.after commands).perform .resetNonce = (.failed e, c') →
      c'.session.nonce = (c.after commands).session.nonce) ∧
    ∀ connector nonceUrl url payload signer e s,
      (Session.sendOnce connector nonceUrl url payload signer).run (c.after commands).session =
        (.error e, s) → s.nonce = none := by
  have hsound := Session.Sound.discipline.after c commands hc.sound
  refine ⟨hsound.nonceLaw, ?_, ?_, ?_⟩
  · intro command hcommand
    exact Session.reading_nonce.perform (c.after commands) hcommand
  · intro e c' h
    exact nonce_of_perform_resetNonce_eq_failed h
  · intro connector nonceUrl url payload signer e s h
    exact Session.nonce_of_sendOnce_eq_error h

/-- The case of a client that registers a key, updates its account and then fails to replace its
nonce: each of the two messages carries a nonce of its own. -/
theorem nonces_used_once_localhost :
    let uri : Url := { scheme := "http", hasAuthority := true, host := some (.domain "localhost") }
    let directory : Resource.Directory := {
      newNonce := "http://localhost/nonce", newAccount := "http://localhost/account"
      newOrder := "http://localhost/order" }
    let listing : Reply := { status := ⟨200⟩, body := Resource.Directory.codec.write directory }
    let grant : Reply := { status := ⟨200⟩, headers := [("replay-nonce", Utf8.encode "bm9uY2U")] }
    let created : Reply := {
      status := ⟨201⟩
      headers := [("location", Utf8.encode "http://localhost/account/1"),
        ("replay-nonce", Utf8.encode "bm9uY2Uy")]
      body := Json.writeObject [] }
    let updated : Reply := {
      status := ⟨200⟩, headers := [("replay-nonce", Utf8.encode "bm9uY2Uz")]
      body := Json.writeObject [] }
    let c : Client := {
      session := {
        uri, provider := .generic, wire := { replies := [listing, grant, created, updated, none] } } }
    let commands : List Command :=
      [.register ⟨1, by decide, by decide⟩ none, .updateAccount 0, .resetNonce]
    c.session.IsNew ∧
    (c.after commands).session.wire.exchanges.filterMap
      (fun e => e.request.message.map (·.header.nonce)) = ["bm9uY2U", "bm9uY2Uy"] ∧
    (c.after commands).session.nonce = some "bm9uY2Uz" ∧
    (c.after commands).session.NonceLaw ∧
    (∀ command : Command, command.isUnsigned = true →
      ((c.after commands).perform command).2.session.nonce = (c.after commands).session.nonce) ∧
    (∀ e c', (c.after commands).perform .resetNonce = (.failed e, c') →
      c'.session.nonce = (c.after commands).session.nonce) ∧
    ∀ connector nonceUrl url payload signer e s,
      (Session.sendOnce connector nonceUrl url payload signer).run (c.after commands).session =
        (.error e, s) → s.nonce = none := by
  intro uri directory listing grant created updated c commands
  have hmessages : (c.after commands).session.wire.exchanges.filterMap
      (fun e => e.request.message.map (·.header.nonce)) = ["bm9uY2U", "bm9uY2Uy"] := by
    decide +kernel
  have hslot : (c.after commands).session.nonce = some "bm9uY2Uz" := by decide +kernel
  exact ⟨⟨rfl, rfl, rfl⟩, hmessages, hslot, nonces_used_once c ⟨rfl, rfl, rfl⟩ commands⟩

end Client

end AcmeClient
