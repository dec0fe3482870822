import AcmeClient.Proofs.Client.Messages
import AcmeClient.Proofs.Client.Nonces
import AcmeClient.Proofs.Client.Resources
import AcmeClient.Proofs.Jws.Envelope
import Mathlib.Data.List.Induction

/-!
# Who signs the messages of a run

Logging in is signed with a key that the message itself carries. All else that a client works on
belongs to an account that it has logged into, and messages about it name that account.
-/

namespace AcmeClient

open Http

namespace Client

/-- A client that has done nothing yet. -/
structure IsNew (c : Client) : Prop where
  session : c.session.IsNew
  accounts : c.accounts = []
  orders : c.orders = []
  authorizations : c.authorizations = []
  challenges : c.challenges = []

/-- Whether one of the accounts has some credentials, with its own location in them. -/
def HasAccount (c : Client) (owner : Credentials) : Prop :=
  ∃ a ∈ c.accounts, a.owner = owner ∧ a.location = owner.location

/-- Whether all that a client works on has owners of some sort. -/
structure IsOwnedBy (c : Client) (P : Credentials → Prop) : Prop where
  accounts : ∀ a ∈ c.accounts, P a.owner ∧ a.owner.location = a.location
  orders : ∀ o ∈ c.orders, P o.owner
  authorizations : ∀ a ∈ c.authorizations, P a.owner
  challenges : ∀ ch ∈ c.challenges, P ch.owner

variable {c c' : Client} {P Q : Credentials → Prop} {command : Command} {owner : Credentials}

/-- An account is kept with its credentials. -/
theorem HasAccount.of_extends (h : c.HasAccount owner) (hextends : c.Extends c') :
    c'.HasAccount owner := by
  obtain ⟨a, ha, howner, hlocation⟩ := h
  obtain ⟨i, hi⟩ := List.getElem?_of_mem ha
  obtain ⟨a', ha', hfollows⟩ := hextends.accounts i a hi
  exact ⟨a', List.mem_of_getElem? ha', hfollows.owner_eq.trans howner,
    hfollows.location_eq.trans hlocation⟩

namespace IsOwnedBy

/-- More owners may be of another sort. -/
theorem imp (h : c.IsOwnedBy P) (hPQ : ∀ owner, P owner → Q owner) : c.IsOwnedBy Q where
  accounts a ha := ⟨hPQ _ (h.accounts a ha).1, (h.accounts a ha).2⟩
  orders o ho := hPQ _ (h.orders o ho)
  authorizations a ha := hPQ _ (h.authorizations a ha)
  challenges ch hch := hPQ _ (h.challenges ch hch)

/-- A new client has nothing that belongs to anyone. -/
theorem of_isNew (h : c.IsNew) : c.IsOwnedBy P where
  accounts a ha := by simp [h.accounts] at ha
  orders o ho := by simp [h.orders] at ho
  authorizations a ha := by simp [h.authorizations] at ha
  challenges ch hch := by simp [h.challenges] at hch

/-- What a command is done with belongs to such an owner. -/
theorem ownerFor (h : c.IsOwnedBy P) (howner : c.ownerFor command = some owner) : P owner := by
  cases command with
  | connect | showDirectory | refreshDirectory | showCapabilities | findEndpoint _
  | findEndpointIfAny _ | fetch _ | resetNonce | register _ _ | logIn _ _ | logInExisting _ =>
    cases howner
  | updateAccount i | createOrder i _ | loadOrder i _ | loadAuthorization i _ | loadChallenge i _ =>
    obtain ⟨a, ha, rfl⟩ := Option.map_eq_some_iff.mp howner
    exact (h.accounts a (List.mem_of_getElem? ha)).1
  | updateOrder i | awaitReady i _ | awaitOrder i _ | finalizeOrder i _ | downloadCertificate i _
  | listAuthorizations i =>
    obtain ⟨o, ho, rfl⟩ := Option.map_eq_some_iff.mp howner
    exact h.orders o (List.mem_of_getElem? ho)
  | updateAuthorization i | deactivateAuthorization i | awaitAuthorization i _
  | listChallenges i =>
    obtain ⟨a, ha, rfl⟩ := Option.map_eq_some_iff.mp howner
    exact h.authorizations a (List.mem_of_getElem? ha)
  | updateChallenge i | triggerChallenge i _ | awaitChallenge i _ =>
    obtain ⟨ch, hch, rfl⟩ := Option.map_eq_some_iff.mp howner
    exact h.challenges ch (List.mem_of_getElem? hch)

/-- What a client has after a command belongs to the owners from before or to an account that was
logged into. -/
theorem of_grows (h : c.IsOwnedBy P) (hgrows : c.Grows c' command)
    (hnew : ∀ a ∈ c'.accounts, command.loginKey? = some a.owner.key →
      a.owner.location = a.location → P a.owner) : c'.IsOwnedBy P where
  accounts := hgrows.accounts.forall_mem
    (fun a ha a' hfollows => by
      rw [hfollows.owner_eq, hfollows.location_eq]
      exact h.accounts a ha)
    fun a ha hlogin => ⟨hnew a ha hlogin.1 hlogin.2, hlogin.2⟩
  orders := hgrows.orders.forall_mem
    (fun o ho o' hfollows => hfollows.owner_eq ▸ h.orders o ho) fun _ _ howner => h.ownerFor howner
  authorizations := hgrows.authorizations.forall_mem
    (fun a ha a' hfollows => hfollows.owner_eq ▸ h.authorizations a ha)
    fun _ _ howner => h.ownerFor howner
  challenges := hgrows.challenges.forall_mem
    (fun ch hch ch' hfollows => hfollows.owner_eq ▸ h.challenges ch hch)
    fun _ _ howner => h.ownerFor howner

end IsOwnedBy

/-- A run ends with its last command. -/
theorem after_concat (c : Client) (commands : List Command) (command : Command) :
    c.after (commands ++ [command]) = ((c.after commands).perform command).2 := by
  simp [after]

/-- All that a client works on in a run belongs to its accounts. -/
theorem isOwnedBy_after (hc : c.IsNew) (commands : List Command) :
    (c.after commands).IsOwnedBy (c.after commands).HasAccount := by
  induction commands using List.reverseRecOn with
  | nil => exact .of_isNew hc
  | append_singleton commands command ih =>
    rw [after_concat]
    have hkept := ih.imp fun _ h => h.of_extends (.perform _ command)
    exact hkept.of_grows (grows_perform _ command)
      fun a ha _ hlocation => ⟨a, ha, rfl, hlocation.symm⟩

/-- A draft is signed by the key that is logged in with, if its command logs in, and else by the
owner of what the command is done with. -/
theorem signer_of_drafts {d : Resource.Directory} {draft : Draft}
    (hdraft : c.Drafts d draft command) :
    match command.loginKey? with
    | some key => draft.signer = { key } ∧ draft.url = d.newAccount
    | none => ∃ owner, c.ownerFor command = some owner ∧ draft.signer = owner.signer := by
  cases command with
  | connect | showDirectory | refreshDirectory | showCapabilities | findEndpoint _
  | findEndpointIfAny _ | fetch _ | resetNonce | listChallenges _ => cases hdraft
  | register key contact =>
    obtain rfl := hdraft
    exact ⟨rfl, rfl⟩
  | logIn pem contact | logInExisting pem =>
    obtain ⟨key, hkey, rfl⟩ := hdraft
    simp only [Command.loginKey?, hkey, Except.toOption]
    exact ⟨rfl, rfl⟩
  | updateAccount i | loadOrder i _ | loadAuthorization i _ | loadChallenge i _ =>
    obtain ⟨a, ha, rfl⟩ := hdraft
    exact ⟨a.owner, by rw [ownerFor, ha, Option.map_some], rfl⟩
  | createOrder i request =>
    obtain ⟨a, _, ha, _, rfl⟩ := hdraft
    exact ⟨a.owner, by rw [ownerFor, ha, Option.map_some], rfl⟩
  | updateOrder i | awaitReady i _ | awaitOrder i _ =>
    obtain ⟨o, ho, rfl⟩ := hdraft
    exact ⟨o.owner, by rw [ownerFor, ho, Option.map_some], rfl⟩
  | finalizeOrder i _ | downloadCertificate i _ =>
    obtain ⟨o, _, ho, _, rfl⟩ := hdraft
    exact ⟨o.owner, by rw [ownerFor, ho, Option.map_some], rfl⟩
  | listAuthorizations i =>
    obtain ⟨o, ho, _, _, rfl⟩ := hdraft
    exact ⟨o.owner, by rw [ownerFor, ho, Option.map_some], rfl⟩
  | updateAuthorization i | awaitAuthorization i _ | deactivateAuthorization i =>
    obtain ⟨a, ha, rfl⟩ := hdraft
    exact ⟨a.owner, by rw [ownerFor, ha, Option.map_some], rfl⟩
  | updateChallenge i | awaitChallenge i _ | triggerChallenge i _ =>
    obtain ⟨ch, hch, rfl⟩ := hdraft
    exact ⟨ch.owner, by rw [ownerFor, hch, Option.map_some], rfl⟩

/-- A payload is the text of an object, so not empty. -/
theorem payload_ne_of_drafts {d : Resource.Directory} {draft : Draft}
    (hdraft : c.Drafts d draft command) : draft.payload ≠ some [] := by
  have hobject (members : List (String × Bytes)) : some (Json.writeObject members) ≠ some [] := by
    simp [Json.writeObject]
  have hnone : (none : Option Bytes) ≠ some [] := by simp
  cases command with
  | connect | showDirectory | refreshDirectory | showCapabilities | findEndpoint _
  | findEndpointIfAny _ | fetch _ | resetNonce | listChallenges _ => cases hdraft
  | register key contact =>
    obtain rfl := hdraft
    exact hobject _
  | logIn _ _ | logInExisting _ | deactivateAuthorization _ | triggerChallenge _ _ =>
    obtain ⟨_, _, rfl⟩ := hdraft
    exact hobject _
  | createOrder _ _ | finalizeOrder _ _ =>
    obtain ⟨_, _, _, _, rfl⟩ := hdraft
    exact hobject _
  | downloadCertificate _ _ | listAuthorizations _ =>
    obtain ⟨_, _, _, _, rfl⟩ := hdraft
    exact hnone
  | updateAccount _ | loadOrder _ _ | loadAuthorization _ _ | loadChallenge _ _ | updateOrder _
  | awaitReady _ _ | awaitOrder _ _ | updateAuthorization _ | awaitAuthorization _ _
  | updateChallenge _ | awaitChallenge _ _ =>
    obtain ⟨_, _, rfl⟩ := hdraft
    exact hnone

/-- A new client has no directory, so it knows only those that were delivered. -/
theorem delivers_of_knows (hc : c.IsNew) (commands : List Command) {s : Session}
    {M : Resource.Directory → Draft → Prop} {d : Resource.Directory}
    (hs : (c.after commands).session.Posts M s) (hd : (c.after commands).session.Knows s d) :
    Delivers s.wire.exchanges d := by
  have hrun : c.session.Posts (fun _ _ => True) (c.after commands).session :=
    (Session.Posts.discipline _).after c commands
  rcases hrun.knows hs hd with ⟨had, hhad, _⟩ | hdelivered
  · rw [hc.session.directory] at hhad
    cases hhad
  · exact hdelivered

/-- Every signed message decodes to what was signed. In a run from a new client, each message of a
command that logs in goes to the place for accounts and is signed with a key that it carries itself;
each other message is signed with the key of the account that owns what its command is done with,
and names that account. What a command adds belongs to that account as well. -/
theorem messages_say_what_was_signed :
    (∀ signer url nonce payload, payload ≠ some [] → ∃ parts,
      Jws.IsEnvelope signer url nonce payload (signer.sign url nonce payload).write parts) ∧
    ∀ c : Client, c.IsNew → ∀ commands command,
      (c.after commands).Grows ((c.after commands).perform command).2 command ∧ ∃ sent,
      ((c.after commands).perform command).2.session.wire.exchanges =
        (c.after commands).session.wire.exchanges ++ sent ∧
      ∀ e ∈ sent, e.isPost = true → ∃ message signer url nonce payload parts,
        e.request.message = some message ∧ address? url = some e.request.url ∧
        Jws.IsEnvelope signer url nonce payload message.write parts ∧
        match command.loginKey? with
        | some key => signer = { key } ∧ ∃ d, url = d.newAccount ∧
          Delivers ((c.after commands).perform command).2.session.wire.exchanges d
        | none => ∃ owner, (c.after commands).ownerFor command = some owner ∧
          (c.after commands).HasAccount owner ∧ signer = owner.signer := by
  refine ⟨fun signer url nonce payload h => ⟨_, Jws.isEnvelope_sign signer url nonce h⟩, ?_⟩
  intro c hc commands command
  have hposts := (c.after commands).posts_perform command
  obtain ⟨sent, hsent, hcarries⟩ := hposts.exchanges
  refine ⟨grows_perform _ command, sent, hsent, fun e he hpost => ?_⟩
  cases hcarries e he with
  | nothing isPost _ =>
    rw [isPost] at hpost
    cases hpost
  | message draft nonce allowed url message =>
    obtain ⟨d, hd, hdraft⟩ := allowed
    have henvelope := Jws.isEnvelope_sign draft.signer draft.url nonce (payload_ne_of_drafts hdraft)
    refine ⟨_, draft.signer, draft.url, nonce, draft.payload, _, message, url, henvelope, ?_⟩
    have hsigner := signer_of_drafts hdraft
    cases hkey : command.loginKey? with
    | some key =>
      rw [hkey] at hsigner
      exact ⟨hsigner.1, d, hsigner.2, delivers_of_knows hc commands hposts hd⟩
    | none =>
      rw [hkey] at hsigner
      obtain ⟨owner, howner, hsigner⟩ := hsigner
      exact ⟨owner, howner, (isOwnedBy_after hc commands).ownerFor howner, hsigner⟩

end Client

end AcmeClient
