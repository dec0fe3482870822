import AcmeClient.Proofs.Client.Discipline

/-!
# The messages of a client

Whatever goes over the wire with a signature is a draft of the command that is carried out, with a
nonce. What drafts take from a directory, they take from one that was at hand at the start or has
been delivered since.
-/

namespace AcmeClient

open Attempt

namespace Http

/-- Whether a directory has arrived in exchanges. -/
def Delivers (l : List Exchange) (d : Resource.Directory) : Prop :=
  ∃ e ∈ l, e.request.method = .get ∧ ∃ reply, e.reply = some reply ∧
    reply.status.isSuccess = true ∧ Resource.Directory.codec.decode reply.body = .ok d

/-- What has arrived stays so. -/
theorem Delivers.append {l : List Exchange} {d : Resource.Directory} (h : Delivers l d)
    (m : List Exchange) : Delivers (l ++ m) d := by
  obtain ⟨e, he, h⟩ := h
  exact ⟨e, List.mem_append_left m he, h⟩

/-- Whether an exchange carries a draft that may be sent, or nothing at all. -/
inductive Exchange.Carries (M : Draft → Prop) (e : Exchange) : Prop
  | nothing (isPost : e.isPost = false) (message : e.request.message = none)
  | message (draft : Draft) (nonce : String) (allowed : M draft)
      (url : address? draft.url = some e.request.url)
      (message : e.request.message = some (draft.sign nonce))

/-- More drafts may be sent. -/
theorem Exchange.Carries.imp {M N : Draft → Prop} {e : Exchange} (h : e.Carries M)
    (hMN : ∀ draft, M draft → N draft) : e.Carries N := by
  cases h with
  | nothing isPost message => exact .nothing isPost message
  | message draft nonce allowed url message =>
    exact .message draft nonce (hMN draft allowed) url message

end Http

open Http

namespace Session

/-- Whether a directory was at hand in a session or has been delivered in going on from it. -/
def Knows (s t : Session) (d : Resource.Directory) : Prop :=
  (∃ had, s.directory = some had ∧ had.content = d) ∨ Delivers t.wire.exchanges d

/-- What holds of going on with a session if only some messages are sent. -/
structure Posts (M : Resource.Directory → Draft → Prop) (s t : Session) : Prop where
  directory : ∀ d, t.directory = some d → s.Knows t d.content
  exchanges : ∃ sent, t.wire.exchanges = s.wire.exchanges ++ sent ∧
    ∀ e ∈ sent, e.Carries fun draft => ∃ d, s.Knows t d ∧ M d draft

namespace Posts

variable {M N : Resource.Directory → Draft → Prop} {s t u : Session}

/-- What was delivered stays so. -/
theorem delivers (h : s.Posts M t) {d : Resource.Directory}
    (hd : Delivers s.wire.exchanges d) : Delivers t.wire.exchanges d := by
  obtain ⟨sent, hsent, _⟩ := h.exchanges
  exact hsent ▸ hd.append sent

/-- What is known from a session on is known from an earlier one on. -/
theorem knows (h : s.Posts M t) (h' : t.Posts N u) {d : Resource.Directory}
    (hd : t.Knows u d) : s.Knows u d := by
  rcases hd with ⟨had, hhad, rfl⟩ | hd
  · rcases h.directory had hhad with hs | ht
    · exact Or.inl hs
    · exact Or.inr (h'.delivers ht)
  · exact Or.inr hd

/-- Nothing need be sent while the directory stays. -/
theorem of_eq (hdirectory : t.directory = s.directory)
    (hexchanges : t.wire.exchanges = s.wire.exchanges) : s.Posts M t where
  directory d hd := Or.inl ⟨d, hdirectory ▸ hd, rfl⟩
  exchanges := ⟨[], hexchanges.trans (List.append_nil _).symm, by simp⟩

/-- A request without a message may be sent while the directory stays. -/
theorem of_exchange {e : Exchange} (hdirectory : t.directory = s.directory)
    (hexchanges : t.wire.exchanges = s.wire.exchanges ++ [e]) (isPost : e.isPost = false)
    (message : e.request.message = none) : s.Posts M t where
  directory d hd := Or.inl ⟨d, hdirectory ▸ hd, rfl⟩
  exchanges := by
    refine ⟨[e], hexchanges, fun e' he' => ?_⟩
    obtain rfl := List.mem_singleton.mp he'
    exact .nothing isPost message

/-- Fetching the directory sends no message. -/
theorem refreshed {r : Except Error CachedDirectory} (h : Refreshed s r t) : s.Posts M t := by
  cases h with
  | unsent => exact of_eq rfl rfl
  | kept => exact of_exchange rfl rfl rfl rfl
  | replaced d _ _ c address reply success decoded =>
    refine ⟨fun d' hd' => ?_, [_], rfl, fun e he => ?_⟩
    · obtain rfl := Option.some.inj hd'
      exact Or.inr ⟨_, List.mem_append_right _ (List.mem_singleton_self _), rfl, reply, rfl,
        success, decoded⟩
    · obtain rfl := List.mem_singleton.mp he
      exact .nothing rfl rfl

/-- Going on twice sends what may be sent. -/
theorem trans (h : s.Posts M t) (h' : t.Posts M u) : s.Posts M u where
  directory d hd := h.knows h' (h'.directory d hd)
  exchanges := by
    obtain ⟨sent, hsent, hcarries⟩ := h.exchanges
    obtain ⟨sent', hsent', hcarries'⟩ := h'.exchanges
    refine ⟨sent ++ sent', by rw [hsent', hsent, List.append_assoc], fun e he => ?_⟩
    rcases List.mem_append.mp he with he | he
    · refine (hcarries e he).imp fun draft ⟨d, hd, hm⟩ => ⟨d, ?_, hm⟩
      exact hd.imp id h'.delivers
    · exact (hcarries' e he).imp fun draft ⟨d, hd, hm⟩ => ⟨d, h.knows h' hd, hm⟩

/-- A round sends one message, after a request for a nonce if need be. -/
theorem afterRound {c : Connector} {d : CachedDirectory} {draft : Draft} {isConnected : Bool}
    {r : Round} {wire : Wire} (hd : s.directory = some d) (hm : M d.content draft)
    (hr : r.Sends c d.content.newNonce draft.url draft.payload draft.signer s.nonce isConnected)
    (hwire : wire.exchanges = s.wire.exchanges ++ r.exchanges) :
    s.Posts M (s.afterRound wire r) where
  directory d' hd' := Or.inl ⟨d', hd', rfl⟩
  exchanges := by
    refine ⟨r.exchanges, hwire, fun e he => ?_⟩
    rcases List.mem_append.mp he with he | he
    · obtain ⟨address, _, hrequest⟩ := hr.head_request e (Option.mem_toList.mp he)
      exact .nothing (by rw [Exchange.isPost, hrequest]; rfl) (by rw [hrequest]; rfl)
    · obtain ⟨address, nonce, haddress, _, hrequest⟩ :=
        hr.post_request e (Option.mem_toList.mp he)
      exact .message draft nonce ⟨d.content, Or.inl ⟨d, hd, rfl⟩, hm⟩
        (by rw [hrequest]; exact haddress) (by rw [hrequest]; rfl)

/-- All that is done in a session sends what may be sent. -/
theorem discipline (M : Resource.Directory → Draft → Prop) : Discipline M (Posts M) where
  refl s := of_eq rfl rfl
  trans h h' := h.trans h'
  connecting s := by
    obtain ⟨_, connectors, shared, hrun⟩ := run_connect s
    rw [hrun]
    exact of_eq rfl rfl
  refreshing s := refreshed (refreshed_refreshDirectory s)
  fetching c url s := by
    rcases ask_cases c .get url {} none s with ⟨_, ha⟩ | ⟨_, address, reply, _, ha⟩
    · rw [ha]
      exact of_eq rfl rfl
    · rw [ha]
      exact of_exchange rfl rfl rfl rfl
  resetting c hd := by
    rw [run_bind]
    rcases fetchNonce_cases c _ _ with ⟨_, hf⟩ | ⟨_, address, reply, _, hf⟩
    · rw [hf]
      exact of_eq rfl rfl
    · rw [hf]
      cases grant _ reply
      all_goals exact of_exchange rfl rfl rfl rfl
  sending c hd hm := by
    obtain ⟨r, wire, hr, _, hwire, hrun⟩ := sends_sendOnce c _ _ _ _ _
    rw [hrun]
    exact afterRound hd hm hr hwire
  sleeping _ _ := of_eq rfl rfl

end Posts

end Session

/-- A command sends what the client drafts for it and nothing else. -/
theorem Client.posts_perform (c : Client) (command : Command) :
    c.session.Posts (fun d draft => c.Drafts d draft command) (c.perform command).2.session :=
  (Session.Posts.discipline _).perform fun _ _ h => h

end AcmeClient
