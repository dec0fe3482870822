import AcmeClient.Proofs.Client.Discipline

/-!
# What commands do to a client's resources

A command either fails and leaves all resources as they are, or it moves them in the one way that
its kind allows: it logs into an account, takes up a resource of one, or follows a resource that is
there already.
-/

namespace AcmeClient

open Attempt

/-- Whether a command was done. -/
def Ending.isDone : Ending → Bool
  | .done _ => true
  | .lacking _ | .failed _ => false

/-- What is found for each member of a list is found in its order. -/
theorem Attempt.run_mapM_eq_ok {f : α → Attempt σ β} {l : List α} {s t : σ} {ys : List β}
    (h : (l.mapM f).run s = (.ok ys, t)) : ∀ y ∈ ys, ∃ x ∈ l, ∃ u v, (f x).run u = (.ok y, v) := by
  induction l generalizing s ys with
  | nil =>
    cases h
    simp
  | cons x l ih =>
    rw [List.mapM_cons] at h
    obtain ⟨y, u, hy, h⟩ := run_bind_eq_ok h
    obtain ⟨rest, v, hrest, h⟩ := run_bind_eq_ok h
    cases h
    intro z hz
    rcases List.mem_cons.mp hz with rfl | hz
    · exact ⟨x, List.mem_cons_self, s, u, hy⟩
    · obtain ⟨x', hx', hz⟩ := ih hrest z hz
      exact ⟨x', List.mem_cons_of_mem x hx', hz⟩

/-- An account that is found belongs to the key and is where its credentials say. -/
theorem Session.account_eq_ok {key : SigningKey} {wanted : Resource.Account} {s t : Session}
    {a : Account} (h : (Session.account key wanted).run s = (.ok a, t)) :
    a.owner.key = key ∧ a.owner.location = a.location := by
  obtain ⟨url, _, _, h⟩ := run_bind_eq_ok h
  obtain ⟨response, _, _, h⟩ := run_bind_eq_ok h
  obtain ⟨location, _, _, h⟩ := run_bind_eq_ok h
  obtain ⟨content, _, _, h⟩ := run_bind_eq_ok h
  cases h
  exact ⟨rfl, rfl⟩

/-- A resource that is loaded belongs to the account and is where it was asked for. -/
theorem Tracked.load_eq_ok [Described α] {owner : Credentials} {location : String} {s t : Session}
    {x : Tracked α} (h : (Tracked.load owner location).run s = (.ok x, t)) :
    x.owner = owner ∧ x.location = location := by
  obtain ⟨response, _, _, h⟩ := run_bind_eq_ok h
  obtain ⟨content, _, _, h⟩ := run_bind_eq_ok h
  cases h
  exact ⟨rfl, rfl⟩

/-- A challenge that is loaded belongs to the account and is where it was asked for. -/
theorem Challenge.load_eq_ok {owner : Credentials} {location : String} {s t : Session}
    {ch : Challenge} (h : (Challenge.load owner location).run s = (.ok ch, t)) :
    ch.owner = owner ∧ ch.location = location := by
  obtain ⟨x, _, hx, h⟩ := run_bind_eq_ok h
  cases h
  exact ⟨(Tracked.load_eq_ok hx).1, (Tracked.load_eq_ok hx).2⟩

/-- An order that is created belongs to the account and has the identifiers that were asked for,
of which there are some. -/
theorem OrderRequest.create_eq_ok {request : OrderRequest} {owner : Credentials} {s t : Session}
    {o : Order} (h : (request.create owner).run s = (.ok o, t)) :
    o.owner = owner ∧ request.identifiers ≠ [] ∧ o.content.identifiers = request.identifiers := by
  unfold create at h
  split at h
  · cases h
  · rename_i hne
    have hne : request.identifiers ≠ [] := by simpa using hne
    obtain ⟨d, _, _, h⟩ := run_bind_eq_ok h
    dsimp only at h
    split at h
    · cases h
    · obtain ⟨payload, _, _, h⟩ := run_bind_eq_ok h
      obtain ⟨response, _, _, h⟩ := run_bind_eq_ok h
      obtain ⟨location, _, _, h⟩ := run_bind_eq_ok h
      obtain ⟨answer, _, _, h⟩ := run_bind_eq_ok h
      obtain ⟨content, _, hcontent, h⟩ := run_bind_eq_ok h
      cases h
      obtain ⟨hcontent, _⟩ := Prod.mk.inj hcontent
      exact ⟨rfl, hne, Resource.Order.identifiers_eq_of_refreshed hne hcontent⟩

/-- The authorizations of an order belong to its account. -/
theorem Order.authorizations_eq_ok {order : Order} {s t : Session} {l : List Authorization}
    (h : order.authorizations.run s = (.ok l, t)) : ∀ a ∈ l, a.owner = order.owner := by
  intro a ha
  obtain ⟨url, _, u, v, ha⟩ := run_mapM_eq_ok h a ha
  exact (Tracked.load_eq_ok ha).1

namespace Client

/-- Whether a command may move the resources of a client to those of another. -/
def Moves (c c' : Client) : Command → Prop
  | .register key _ => ∃ a : Account, a.owner.key = key ∧ a.owner.location = a.location ∧
    c' = { c with accounts := c.accounts ++ [a] }
  | .logIn pem _ | .logInExisting pem => ∃ a : Account,
    Session.accountKey pem = .ok a.owner.key ∧ a.owner.location = a.location ∧
    c' = { c with accounts := c.accounts ++ [a] }
  | .updateAccount i => ∃ a a', c.accounts[i]? = some a ∧ a.Follows a' ∧
    c' = { c with accounts := c.accounts.set i a' }
  | .createOrder i request => ∃ a, ∃ o : Order, c.accounts[i]? = some a ∧ o.owner = a.owner ∧
    request.identifiers ≠ [] ∧ o.content.identifiers = request.identifiers ∧
    c' = { c with orders := c.orders ++ [o] }
  | .loadOrder i url => ∃ a, ∃ o : Order, c.accounts[i]? = some a ∧ o.owner = a.owner ∧
    o.location = url ∧ c' = { c with orders := c.orders ++ [o] }
  | .loadAuthorization i url => ∃ a, ∃ x : Authorization, c.accounts[i]? = some a ∧
    x.owner = a.owner ∧ x.location = url ∧ c' = { c with authorizations := c.authorizations ++ [x] }
  | .loadChallenge i url => ∃ a, ∃ ch : Challenge, c.accounts[i]? = some a ∧ ch.owner = a.owner ∧
    ch.location = url ∧ c' = { c with challenges := c.challenges ++ [ch] }
  | .updateOrder i | .awaitReady i _ | .awaitOrder i _ | .finalizeOrder i _ => ∃ o o',
    c.orders[i]? = some o ∧ o.Follows o' ∧ c' = { c with orders := c.orders.set i o' }
  | .downloadCertificate _ _ => ∃ certificate,
    c' = { c with certificates := c.certificates ++ [certificate] }
  | .listAuthorizations i => ∃ o, ∃ l : List Authorization, c.orders[i]? = some o ∧
    (∀ a ∈ l, a.owner = o.owner) ∧ c' = { c with authorizations := c.authorizations ++ l }
  | .updateAuthorization i | .deactivateAuthorization i | .awaitAuthorization i _ => ∃ a a',
    c.authorizations[i]? = some a ∧ a.Follows a' ∧
    c' = { c with authorizations := c.authorizations.set i a' }
  | .listChallenges i => ∃ a, c.authorizations[i]? = some a ∧
    c' = { c with challenges := c.challenges ++ Authorization.challenges a }
  | .updateChallenge i | .triggerChallenge i _ | .awaitChallenge i _ => ∃ ch ch',
    c.challenges[i]? = some ch ∧ ch.Follows ch' ∧
    c' = { c with challenges := c.challenges.set i ch' }
  | .connect | .showDirectory | .refreshDirectory | .showCapabilities | .findEndpoint _
  | .findEndpointIfAny _ | .fetch _ | .resetNonce => c' = c

/-- How work on a client may end: with a failure and all resources as they were, or with resources
of which something holds. -/
def Ends (c : Client) (P : Client → Prop) (r : Except Error Outcome × Client) : Prop :=
  (∃ e s, r = (.error e, { c with session := s })) ∨ ∃ s c', P c' ∧ r.2 = { c' with session := s }

variable {c : Client} {P : Client → Prop}

/-- Work in the session alone leaves the resources as they are. -/
theorem ends_inSession {a : Action α} (f : α → Outcome) (hP : P c) :
    c.Ends P ((f <$> inSession a).run c) :=
  Or.inr ⟨_, c, hP, by rw [run_map]; rfl⟩

/-- What is found in the session is remembered. -/
theorem ends_remember {a : Action α} (put : α → Client → Client) {outcome : Outcome}
    (hput : ∀ x s, put x { c with session := s } = { put x c with session := s })
    (hP : ∀ x s, a.run c.session = (.ok x, s) → P (put x c)) :
    c.Ends P ((do
      let x ← inSession a
      modify (put x)
      return outcome : Attempt Client Outcome).run c) := by
  unfold inSession
  rw [run_bind, run_within]
  rcases h : a.run c.session with ⟨e | x, s⟩
  · exact Or.inl ⟨e, s, rfl⟩
  · exact Or.inr ⟨s, put x c, hP x s h, hput x s⟩

/-- A resource that is worked on in one of the lists of the client is followed. -/
theorem ends_following [Described α] {i : Nat} {need : Need} {t : Tracked α} {work : Tracking α β}
    {f : β → Outcome} (all : Client → List (Tracked α))
    (withAll : List (Tracked α) → Client → Client) (ht : need.orAt (all c) i = .ok t)
    (hsession : ∀ l s, withAll l { c with session := s } = { withAll l c with session := s })
    (hwork : Keeps (fun st st' => st.2.Follows st'.2) work) :
    c.Ends (fun c' => ∃ t t', (all c)[i]? = some t ∧ t.Follows t' ∧
        c' = withAll ((all c).set i t') c)
      ((f <$> Attempt.within (fun c => (c.session, t))
        (fun st c => withAll ((all c).set i st.2) { c with session := st.1 }) work).run c) := by
  right
  rw [run_map, run_within]
  exact ⟨_, _, ⟨t, _, Need.orAt_eq_ok_iff.mp ht, hwork (c.session, t), rfl⟩, hsession _ _⟩

/-- What is done for a command moves the resources as the command may. -/
theorem ends_work {command : Command} {w : Attempt Client Outcome} (h : c.work command = .ok w) :
    c.Ends (fun c' => c.Moves c' command) (w.run c) := by
  cases command with
  | connect | showDirectory | refreshDirectory | showCapabilities | findEndpoint _
  | findEndpointIfAny _ | resetNonce | fetch _ =>
    cases h
    exact ends_inSession _ rfl
  | register key contact =>
    cases h
    refine ends_remember (fun a c => { c with accounts := c.accounts ++ [a] })
      (fun _ _ => rfl) fun a s ha => ?_
    obtain ⟨hkey, hlocation⟩ := Session.account_eq_ok ha
    exact ⟨a, hkey, hlocation, rfl⟩
  | logIn pem contact | logInExisting pem =>
    cases h
    refine ends_remember (fun a c => { c with accounts := c.accounts ++ [a] })
      (fun _ _ => rfl) fun a s ha => ?_
    obtain ⟨key, _, hkey, ha⟩ := run_bind_eq_ok ha
    obtain ⟨hkey, _⟩ := Prod.mk.inj hkey
    obtain ⟨rfl, hlocation⟩ := Session.account_eq_ok ha
    exact ⟨a, hkey, hlocation, rfl⟩
  | updateAccount i =>
    obtain ⟨a, ha, h⟩ := bind_eq_ok h
    cases h
    exact ends_following (·.accounts) (fun l c => { c with accounts := l }) ha (fun _ _ => rfl)
      Tracked.follows_update
  | createOrder i request =>
    obtain ⟨a, ha, h⟩ := bind_eq_ok h
    cases h
    refine ends_remember (fun o c => { c with orders := c.orders ++ [o] })
      (fun _ _ => rfl) fun o s ho => ?_
    obtain ⟨howner, hne, hidentifiers⟩ := OrderRequest.create_eq_ok ho
    exact ⟨a, o, Need.orAt_eq_ok_iff.mp ha, howner, hne, hidentifiers, rfl⟩
  | loadOrder i url =>
    obtain ⟨a, ha, h⟩ := bind_eq_ok h
    cases h
    refine ends_remember (fun o c => { c with orders := c.orders ++ [o] })
      (fun _ _ => rfl) fun o s ho => ?_
    obtain ⟨howner, hlocation⟩ := Tracked.load_eq_ok ho
    exact ⟨a, o, Need.orAt_eq_ok_iff.mp ha, howner, hlocation, rfl⟩
  | loadAuthorization i url =>
    obtain ⟨a, ha, h⟩ := bind_eq_ok h
    cases h
    refine ends_remember (fun x c => { c with authorizations := c.authorizations ++ [x] })
      (fun _ _ => rfl) fun x s hx => ?_
    obtain ⟨howner, hlocation⟩ := Tracked.load_eq_ok hx
    exact ⟨a, x, Need.orAt_eq_ok_iff.mp ha, howner, hlocation, rfl⟩
  | loadChallenge i url =>
    obtain ⟨a, ha, h⟩ := bind_eq_ok h
    cases h
    refine ends_remember (fun ch c => { c with challenges := c.challenges ++ [ch] })
      (fun _ _ => rfl) fun ch s hch => ?_
    obtain ⟨howner, hlocation⟩ := Challenge.load_eq_ok hch
    exact ⟨a, ch, Need.orAt_eq_ok_iff.mp ha, howner, hlocation, rfl⟩
  | updateOrder i =>
    obtain ⟨o, ho, h⟩ := bind_eq_ok h
    cases h
    exact ends_following (·.orders) (fun l c => { c with orders := l }) ho (fun _ _ => rfl)
      Tracked.follows_update
  | awaitReady i policy | awaitOrder i policy =>
    obtain ⟨o, ho, h⟩ := bind_eq_ok h
    cases h
    exact ends_following (·.orders) (fun l c => { c with orders := l }) ho (fun _ _ => rfl)
      (Tracked.follows_await _ policy)
  | finalizeOrder i key =>
    obtain ⟨o, ho, h⟩ := bind_eq_ok h
    cases h
    exact ends_following (·.orders) (fun l c => { c with orders := l }) ho (fun _ _ => rfl)
      (Order.follows_finalize key)
  | downloadCertificate i key =>
    obtain ⟨o, ho, h⟩ := bind_eq_ok h
    cases h
    exact ends_remember (fun x c => { c with certificates := c.certificates ++ [x] })
      (fun _ _ => rfl) fun certificate _ _ => ⟨certificate, rfl⟩
  | listAuthorizations i =>
    obtain ⟨o, ho, h⟩ := bind_eq_ok h
    cases h
    refine ends_remember (fun l c => { c with authorizations := c.authorizations ++ l })
      (fun _ _ => rfl) fun l s hl => ?_
    exact ⟨o, l, Need.orAt_eq_ok_iff.mp ho, Order.authorizations_eq_ok hl, rfl⟩
  | updateAuthorization i =>
    obtain ⟨a, ha, h⟩ := bind_eq_ok h
    cases h
    exact ends_following (·.authorizations) (fun l c => { c with authorizations := l }) ha
      (fun _ _ => rfl) Tracked.follows_update
  | deactivateAuthorization i =>
    obtain ⟨a, ha, h⟩ := bind_eq_ok h
    cases h
    exact ends_following (·.authorizations) (fun l c => { c with authorizations := l }) ha
      (fun _ _ => rfl) Authorization.follows_deactivate
  | awaitAuthorization i policy =>
    obtain ⟨a, ha, h⟩ := bind_eq_ok h
    cases h
    exact ends_following (·.authorizations) (fun l c => { c with authorizations := l }) ha
      (fun _ _ => rfl) (Tracked.follows_await _ policy)
  | listChallenges i =>
    obtain ⟨a, ha, h⟩ := bind_eq_ok h
    cases h
    exact Or.inr ⟨c.session, _, ⟨a, Need.orAt_eq_ok_iff.mp ha, rfl⟩, rfl⟩
  | updateChallenge i =>
    obtain ⟨ch, hch, h⟩ := bind_eq_ok h
    cases h
    exact ends_following (·.challenges) (fun l c => { c with challenges := l }) hch (fun _ _ => rfl)
      Tracked.follows_update
  | triggerChallenge i kind =>
    obtain ⟨ch, hch, h⟩ := bind_eq_ok h
    cases h
    exact ends_following (·.challenges) (fun l c => { c with challenges := l }) hch (fun _ _ => rfl)
      (follows_triggerAs ch kind)
  | awaitChallenge i policy =>
    obtain ⟨ch, hch, h⟩ := bind_eq_ok h
    cases h
    exact ends_following (·.challenges) (fun l c => { c with challenges := l }) hch (fun _ _ => rfl)
      (Tracked.follows_await _ policy)

/-- A command that is not done leaves the resources as they are, or else moves them as it may. -/
theorem perform_cases (c : Client) (command : Command) :
    ((c.perform command).1.isDone = false ∧ ∃ s, (c.perform command).2 = { c with session := s }) ∨
    ∃ s c', c.Moves c' command ∧ (c.perform command).2 = { c' with session := s } := by
  unfold perform
  cases hw : c.work command with
  | error need => exact Or.inl ⟨rfl, c.session, rfl⟩
  | ok w =>
    dsimp only
    have hends := ends_work hw
    rcases hrun : w.run c with ⟨e | outcome, c'⟩
    all_goals
      rw [hrun] at hends
      rcases hends with ⟨e', s, h⟩ | ⟨s, c₁, hmoves, h⟩
    · obtain ⟨_, rfl⟩ := Prod.mk.inj h
      exact Or.inl ⟨rfl, s, rfl⟩
    · exact Or.inr ⟨s, c₁, hmoves, h⟩
    · cases h
    · exact Or.inr ⟨s, c₁, hmoves, h⟩

/-- What a command makes of the resources of a client: all of them are kept, and what is added
belongs to the account that is logged into or to the owner of what the command is done with. -/
structure Grows (c c' : Client) (command : Command) : Prop where
  accounts : Tracked.Grows (fun a => command.loginKey? = some a.owner.key ∧
    a.owner.location = a.location) c.accounts c'.accounts
  orders : Tracked.Grows (fun o => c.ownerFor command = some o.owner) c.orders c'.orders
  authorizations : Tracked.Grows (fun a => c.ownerFor command = some a.owner)
    c.authorizations c'.authorizations
  challenges : Tracked.Grows (fun ch => c.ownerFor command = some ch.owner)
    c.challenges c'.challenges

/-- The resources are what they are, whatever happens in the session. -/
theorem Grows.withSession (c : Client) (s : Session) (command : Command) :
    c.Grows { c with session := s } command :=
  ⟨.refl _, .refl _, .refl _, .refl _⟩

/-- The challenges of an authorization belong to its owner. -/
theorem owner_of_mem_challenges {a : Authorization} {ch : Challenge}
    (h : ch ∈ Authorization.challenges a) : ch.owner = a.owner := by
  obtain ⟨content, _, rfl⟩ := List.mem_map.mp h
  rfl

/-- A move changes one list at most, by following one resource of it or by adding some. -/
theorem grows_of_moves {c' : Client} {command : Command} (h : c.Moves c' command) :
    c.Grows c' command := by
  have same := Grows.withSession c c.session command
  cases command with
  | connect | showDirectory | refreshDirectory | showCapabilities | findEndpoint _
  | findEndpointIfAny _ | fetch _ | resetNonce =>
    obtain rfl := h
    exact same
  | register key contact =>
    obtain ⟨a, hkey, hlocation, rfl⟩ := h
    have hlogin : (Command.register key contact).loginKey? = some a.owner.key := by
      rw [hkey, Command.loginKey?]
    exact { same with accounts := .append (List.forall_mem_singleton.mpr ⟨hlogin, hlocation⟩) }
  | logIn pem contact | logInExisting pem =>
    obtain ⟨a, hkey, hlocation, rfl⟩ := h
    have hlogin : (Session.accountKey pem).toOption = some a.owner.key := by rw [hkey]; rfl
    exact { same with accounts := .append (List.forall_mem_singleton.mpr ⟨hlogin, hlocation⟩) }
  | updateAccount i =>
    obtain ⟨a, a', ha, hfollows, rfl⟩ := h
    exact { same with accounts := .set ha hfollows }
  | createOrder i request =>
    obtain ⟨a, o, ha, howner, _, _, rfl⟩ := h
    have hfor : c.ownerFor (.createOrder i request) = some o.owner := by
      rw [ownerFor, ha, howner, Option.map_some]
    exact { same with orders := .append (List.forall_mem_singleton.mpr hfor) }
  | loadOrder i url =>
    obtain ⟨a, o, ha, howner, _, rfl⟩ := h
    have hfor : c.ownerFor (.loadOrder i url) = some o.owner := by
      rw [ownerFor, ha, howner, Option.map_some]
    exact { same with orders := .append (List.forall_mem_singleton.mpr hfor) }
  | updateOrder i | awaitReady i _ | awaitOrder i _ | finalizeOrder i _ =>
    obtain ⟨o, o', ho, hfollows, rfl⟩ := h
    exact { same with orders := .set ho hfollows }
  | downloadCertificate i _ =>
    obtain ⟨_, rfl⟩ := h
    exact ⟨.refl _, .refl _, .refl _, .refl _⟩
  | loadAuthorization i url =>
    obtain ⟨a, x, ha, howner, _, rfl⟩ := h
    have hfor : c.ownerFor (.loadAuthorization i url) = some x.owner := by
      rw [ownerFor, ha, howner, Option.map_some]
    exact { same with authorizations := .append (List.forall_mem_singleton.mpr hfor) }
  | listAuthorizations i =>
    obtain ⟨o, l, ho, hl, rfl⟩ := h
    refine { same with authorizations := .append fun a ha => ?_ }
    rw [ownerFor, ho, hl a ha, Option.map_some]
  | updateAuthorization i | deactivateAuthorization i | awaitAuthorization i _ =>
    obtain ⟨a, a', ha, hfollows, rfl⟩ := h
    exact { same with authorizations := .set ha hfollows }
  | loadChallenge i url =>
    obtain ⟨a, ch, ha, howner, _, rfl⟩ := h
    have hfor : c.ownerFor (.loadChallenge i url) = some ch.owner := by
      rw [ownerFor, ha, howner, Option.map_some]
    exact { same with challenges := .append (List.forall_mem_singleton.mpr hfor) }
  | listChallenges i =>
    obtain ⟨a, ha, rfl⟩ := h
    refine { same with challenges := .append fun ch hch => ?_ }
    rw [ownerFor, ha, owner_of_mem_challenges hch, Option.map_some]
  | updateChallenge i | triggerChallenge i _ | awaitChallenge i _ =>
    obtain ⟨ch, ch', hch, hfollows, rfl⟩ := h
    exact { same with challenges := .set hch hfollows }

/-- A command keeps all resources, and adds only what belongs to the owner that it is done for. -/
theorem grows_perform (c : Client) (command : Command) :
    c.Grows (c.perform command).2 command := by
  rcases c.perform_cases command with ⟨_, s, hs⟩ | ⟨s, c', hmoves, hs⟩
  · rw [hs]
    exact .withSession c s command
  · have hgrows := grows_of_moves hmoves
    rw [hs]
    exact ⟨hgrows.accounts, hgrows.orders, hgrows.authorizations, hgrows.challenges⟩

/-- Whether all resources of a client are kept by another. -/
structure Extends (c c' : Client) : Prop where
  accounts : Tracked.AllFollowed c.accounts c'.accounts
  orders : Tracked.AllFollowed c.orders c'.orders
  authorizations : Tracked.AllFollowed c.authorizations c'.authorizations
  challenges : Tracked.AllFollowed c.challenges c'.challenges

namespace Extends

variable {c' c'' : Client}

/-- A client keeps its own resources. -/
protected theorem refl (c : Client) : c.Extends c :=
  ⟨.refl _, .refl _, .refl _, .refl _⟩

/-- What is kept may be kept on. -/
theorem trans (h : c.Extends c') (h' : c'.Extends c'') : c.Extends c'' :=
  ⟨h.accounts.trans h'.accounts, h.orders.trans h'.orders,
    h.authorizations.trans h'.authorizations, h.challenges.trans h'.challenges⟩

/-- A command keeps all resources. -/
theorem perform (c : Client) (command : Command) : c.Extends (c.perform command).2 :=
  have h := c.grows_perform command
  ⟨h.accounts.followed, h.orders.followed, h.authorizations.followed, h.challenges.followed⟩

/-- A run keeps all resources. -/
theorem after (c : Client) (commands : List Command) : c.Extends (c.after commands) := by
  induction commands generalizing c with
  | nil => exact .refl c
  | cons command commands ih => exact (perform c command).trans (ih (c.perform command).2)

end Extends

end Client

end AcmeClient
