import AcmeClient.Proofs.Client.Nonces

/-!
# The directory and its validators

The directory of a session and the validators for asking about it are remembered apart. They are
still those of one reply, the last one that brought a directory, and each request for the directory
asks whether it has changed since that reply. Any other reply, and a lost one, changes neither.
-/

namespace AcmeClient

open Attempt

namespace Http

/-- The headers by which a request asks whether something has changed. -/
def Request.conditions (r : Request) : List (String × String) :=
  r.headers.filter fun (name, _) => name = "if-none-match" ∨ name = "if-modified-since"

/-- The headers that ask whether something has changed since a reply. -/
def Reply.conditions (r : Reply) : List (String × String) :=
  ((r.header? "etag").map ("if-none-match", ·)).toList ++
    ((r.header? "last-modified").map ("if-modified-since", ·)).toList

/-- The directory that a reply brings. -/
def Reply.directory? (r : Reply) : Option Resource.Directory :=
  if r.status.isSuccess then (Resource.Directory.codec.decode r.body).toOption else none

/-- A success that can be read brings a directory. -/
theorem Reply.directory?_of_decode {r : Reply} {d : Resource.Directory}
    (success : r.status.isSuccess = true)
    (decoded : Resource.Directory.codec.decode r.body = .ok d) : r.directory? = some d := by
  rw [directory?, if_pos success, decoded]
  rfl

/-- What is no success brings no directory. -/
theorem Reply.directory?_of_failure {r : Reply} (failure : r.status.isSuccess = false) :
    r.directory? = none := by
  rw [directory?, if_neg (by simp [failure])]

/-- What cannot be read brings no directory. -/
theorem Reply.directory?_of_unreadable {r : Reply} {fault : Json.Fault}
    (decoded : Resource.Directory.codec.decode r.body = .error fault) : r.directory? = none := by
  unfold directory?
  rw [decoded]
  exact ite_self none

/-- The reply of an exchange, if it brings a directory. -/
def Exchange.listing? (e : Exchange) : Option Reply := e.reply.filter (·.directory?.isSome)

/-- The headers that ask whether something has changed since the reply that brought it, if any. -/
def conditionsSince (had : Option Reply) : List (String × String) :=
  (had.map (·.conditions)).getD []

/-- A request sent through a connector asks by the given validators and by nothing else. -/
theorem conditions_request (c : Connector) (method : Method) (url : Url) (validators : Validators)
    (message : Option Jws) : (c.request method url validators message).conditions =
      (validators.etag.map ("if-none-match", ·)).toList ++
        (validators.lastModified.map ("if-modified-since", ·)).toList := by
  unfold Request.conditions Request.headers Connector.request
  simp only [List.filter_append]
  cases c.settings.compression <;> cases c.settings.proxy <;> cases c.settings.credentials <;>
    cases validators.etag <;> cases validators.lastModified <;> cases message <;> simp

/-- The exchanges of a session, the requests for its directory among them, together with the last
reply that brought a directory. Requests for the directory ask whether it has changed since that
reply; other requests do not ask for changes. -/
inductive Consults : List Exchange → Option Reply → Prop
  | start : Consults [] none
  | aside {l : List Exchange} {had : Option Reply} {e : Exchange} (earlier : Consults l had)
    (bare : e.request.conditions = []) : Consults (l ++ [e]) had
  | asked {l : List Exchange} {had : Option Reply} {e : Exchange} (earlier : Consults l had)
    (method : e.request.method = .get) (unsigned : e.request.message = none)
    (conditions : e.request.conditions = conditionsSince had) :
    Consults (l ++ [e]) (e.listing?.or had)

namespace Consults

variable {l : List Exchange} {had : Option Reply}

/-- Requests that do not ask for changes may follow. -/
theorem append (h : Consults l had) {more : List Exchange}
    (hmore : ∀ e ∈ more, e.request.conditions = []) : Consults (l ++ more) had := by
  induction more generalizing l with
  | nil => rwa [List.append_nil]
  | cons e more ih =>
    obtain ⟨he, hmore⟩ := List.forall_mem_cons.mp hmore
    rw [List.append_cons]
    exact ih (h.aside he) hmore

/-- The last reply that brought a directory has come over the wire, and brought one. -/
theorem isSome_directory? (h : Consults l had) {reply : Reply} (hhad : had = some reply) :
    reply.directory?.isSome ∧ ∃ e ∈ l, e.reply = some reply := by
  induction h with
  | start => cases hhad
  | aside _ _ ih =>
    obtain ⟨hsome, e, he, heq⟩ := ih hhad
    exact ⟨hsome, e, List.mem_append_left _ he, heq⟩
  | @asked _ _ e _ _ _ _ ih =>
    rcases Option.or_eq_some_iff.mp hhad with hlisting | ⟨_, hhad⟩
    · obtain ⟨hreply, hsome⟩ := Option.filter_eq_some_iff.mp hlisting
      exact ⟨hsome, e, List.mem_append_right _ (List.mem_singleton_self e), hreply⟩
    · obtain ⟨hsome, e, he, heq⟩ := ih hhad
      exact ⟨hsome, e, List.mem_append_left _ he, heq⟩

end Consults

end Http

open Http

namespace Session

/-- Whether a session holds the directory and the validators of the last reply that brought any. -/
structure Holds (s : Session) (had : Option Reply) : Prop where
  consults : Consults s.wire.exchanges had
  directory : s.directory.map (·.content) = had.bind (·.directory?)
  remembered : ∀ reply, had = some reply → s.remembered = reply.validators

namespace Holds

variable {s t : Session} {had : Option Reply}

/-- There is a directory at hand exactly if a reply has brought one. -/
theorem isSome_directory (h : s.Holds had) : s.directory.isSome = had.isSome := by
  have hdirectory := congrArg Option.isSome h.directory
  rw [Option.isSome_map] at hdirectory
  rw [hdirectory]
  cases had with
  | none => rfl
  | some reply => exact (h.consults.isSome_directory? rfl).1

/-- The next request for the directory asks whether it has changed since the reply that brought
it. -/
theorem conditions_eq (h : s.Holds had) (c : Connector) (address : Url) :
    (c.request .get address s.validators none).conditions = conditionsSince had := by
  have hsome := h.isSome_directory
  rw [conditions_request]
  unfold validators
  cases had with
  | none =>
    rw [if_pos (by simpa using hsome)]
    rfl
  | some reply =>
    have hnone : ¬s.directory.isNone = true := by
      rw [← Option.not_isSome, hsome]
      simp
    rw [if_neg hnone, h.remembered reply rfl]
    rfl

/-- Requests that do not ask for changes leave the directory and the validators alone. -/
theorem of_aside (h : s.Holds had) (hdirectory : t.directory = s.directory)
    (hremembered : t.remembered = s.remembered) {more : List Exchange}
    (hwire : t.wire.exchanges = s.wire.exchanges ++ more)
    (hmore : ∀ e ∈ more, e.request.conditions = []) : t.Holds had where
  consults := by
    rw [hwire]
    exact h.consults.append hmore
  directory := by rw [hdirectory, h.directory]
  remembered := by rw [hremembered]; exact h.remembered

/-- Another exchange that does not ask for changes. -/
theorem exchanged (h : s.Holds had) {request : Request} (hbare : request.conditions = [])
    (reply : Option Reply) : (s.exchanged request reply).Holds had :=
  h.of_aside rfl rfl rfl fun _ he => by
    obtain rfl := List.mem_singleton.mp he
    exact hbare

end Holds

/-- Whether a session has the same directory and validators as another one. -/
structure SameListing (s t : Session) : Prop where
  directory : t.directory = s.directory
  remembered : t.remembered = s.remembered

/-- What is promised of the answer to a request for the directory. -/
structure AnswerLaw (s : Session) (reply : Option Reply) (r : Except Error CachedDirectory)
    (t : Session) : Prop where
  lost : reply = none → r = .error .network
  unchanged : ∀ x, reply = some x → x.status = .notModified → r = match s.directory with
    | some d => .ok d
    | none => .error (.protocolViolation (.unchangedBeforeFetch s.uri.toText))
  refused : ∀ x, reply = some x → x.status ≠ .notModified → x.status.isSuccess = false →
    ∃ url, r = .error (.server url (Response.problem ⟨url, x⟩))
  unreadable : ∀ x fault, reply = some x → x.status.isSuccess = true →
    Resource.Directory.codec.decode x.body = .error fault → r = .error (.json fault)
  /-- Nothing changes unless the reply brings a directory. -/
  kept : (∀ x, reply = some x → x.directory? = none) → s.SameListing t
  /-- A directory that the reply brings is put in place together with the reply's validators. -/
  replaced : ∀ x content, reply = some x → x.status.isSuccess = true →
    Resource.Directory.codec.decode x.body = .ok content → ∃ d, r = .ok d ∧
      d.content = content ∧ t.directory = some d ∧ t.remembered = x.validators

/-- What is promised of fetching the directory of a session. -/
inductive FetchLaw (s : Session) (had : Option Reply) :
    Except Error CachedDirectory → Session → Prop
  /-- Without a connector or a way to the server nothing is sent. -/
  | unsent {e : Error} {t : Session} (wire : t.wire = s.wire) (same : s.SameListing t)
    (unreachable : ∀ url c, s.provider.resolve s.uri = .ok url → (connect.run s).1 = .ok c →
      s.wire.reaches url.toText = false) : FetchLaw s had (.error e) t
  /-- A request that is sent asks whether the directory has changed. -/
  | sent {r : Except Error CachedDirectory} {t : Session} {e : Exchange}
    (exchanges : t.wire.exchanges = s.wire.exchanges ++ [e]) (method : e.request.method = .get)
    (unsigned : e.request.message = none) (conditions : e.request.conditions = conditionsSince had)
    (answer : AnswerLaw s e.reply r t) : FetchLaw s had r t

/-- What is promised of the directory of a session. -/
structure DirectoryLaw (s : Session) (had : Option Reply) : Prop extends s.Holds had where
  /-- There is a directory at hand exactly if a reply has brought one over the wire. -/
  cached : s.directory.isSome = had.isSome
  source : ∀ reply, had = some reply → ∃ e ∈ s.wire.exchanges, e.reply = some reply
  fetches : FetchLaw s had (refreshDirectory.run s).1 (refreshDirectory.run s).2
  known : ∀ d, s.directory = some d → currentDirectory.run s = (.ok d, s)
  unknown : s.directory = none → currentDirectory.run s = refreshDirectory.run s

section Fetching

variable {s t u : Session} {had : Option Reply} {reply : Option Reply}
  {r : Except Error CachedDirectory}

/-- The server's saying that the directory has not changed is no success. -/
theorem isSuccess_of_notModified {x : Reply} (h : x.status = .notModified) :
    x.status.isSuccess = false := by
  rw [h]
  rfl

/-- Unless a directory is replaced, none has been brought. -/
theorem Answered.kept_or_replaced (h : Answered s u reply r t) :
    (t = u ∧ ∀ x, reply = some x → x.directory? = none) ∨
    ∃ x d, reply = some x ∧ r = .ok d ∧ x.directory? = some d.content ∧ t = u.listed d x := by
  cases h with
  | lost => exact Or.inl ⟨rfl, by simp⟩
  | unchanged status | unfounded status =>
    refine Or.inl ⟨rfl, fun x hx => ?_⟩
    obtain rfl := Option.some.inj hx
    exact Reply.directory?_of_failure (isSuccess_of_notModified status)
  | refused url status failure =>
    refine Or.inl ⟨rfl, fun x hx => ?_⟩
    obtain rfl := Option.some.inj hx
    exact Reply.directory?_of_failure failure
  | unreadable success decoded =>
    refine Or.inl ⟨rfl, fun x hx => ?_⟩
    obtain rfl := Option.some.inj hx
    exact Reply.directory?_of_unreadable decoded
  | replaced success decoded =>
    exact Or.inr ⟨_, _, rfl, rfl, Reply.directory?_of_decode success decoded, rfl⟩

/-- What comes of a request for the directory is what is promised of it. -/
theorem Answered.law (h : Answered s u reply r t) (hsame : s.SameListing u) :
    AnswerLaw s reply r t := by
  have hcases := h.kept_or_replaced
  refine ⟨?_, ?_, ?_, ?_, ?_, ?_⟩
  · rintro rfl
    cases h
    rfl
  · rintro x rfl hx
    have hfailure := isSuccess_of_notModified hx
    cases h with
    | unchanged _ known => rw [known]
    | unfounded _ unknown => rw [unknown]
    | refused url status => exact absurd hx status
    | unreadable success | replaced success => simp [hfailure] at success
  · rintro x rfl hx hfailure
    cases h with
    | unchanged status | unfounded status => exact absurd status hx
    | refused url => exact ⟨url, rfl⟩
    | unreadable success | replaced success => simp [hfailure] at success
  · rintro x fault rfl hsuccess hdecoded
    cases h with
    | unchanged status | unfounded status =>
      simp [isSuccess_of_notModified status] at hsuccess
    | refused url status failure => simp [failure] at hsuccess
    | unreadable _ decoded =>
      rw [hdecoded] at decoded
      cases decoded
      rfl
    | replaced _ decoded => simp [hdecoded] at decoded
  · intro hnone
    rcases hcases with ⟨rfl, _⟩ | ⟨x, d, rfl, _, hx, _⟩
    · exact hsame
    · simp [hnone x rfl] at hx
  · rintro x content rfl hsuccess hdecoded
    have hbrings := Reply.directory?_of_decode hsuccess hdecoded
    rcases hcases with ⟨_, hnone⟩ | ⟨y, d, hy, rfl, hx, rfl⟩
    · simp [hnone x rfl] at hbrings
    · obtain rfl := Option.some.inj hy
      rw [hbrings] at hx
      exact ⟨d, rfl, (Option.some.inj hx).symm, rfl, rfl⟩

/-- What a session holds after a request for the directory. -/
theorem Answered.holds {request : Request} (h : Answered s u reply r t) (hs : s.Holds had)
    (hmethod : request.method = .get) (hunsigned : request.message = none)
    (hconditions : request.conditions = conditionsSince had) (hsame : s.SameListing u)
    (hwire : u.wire.exchanges = s.wire.exchanges ++ [⟨request, reply⟩]) :
    t.Holds ((Exchange.mk request reply).listing?.or had) := by
  have hconsults := hs.consults.asked (e := ⟨request, reply⟩) hmethod hunsigned hconditions
  rw [← hwire] at hconsults
  rcases h.kept_or_replaced with ⟨rfl, hnone⟩ | ⟨x, d, rfl, _, hx, rfl⟩
  · have hlisting : (Exchange.mk request reply).listing? = none := by
      rw [Exchange.listing?, Option.filter_eq_none_iff]
      intro x hx
      simp [hnone x hx]
    rw [hlisting] at hconsults ⊢
    exact ⟨hconsults, by rw [hsame.directory, hs.directory]; rfl, by
      rw [hsame.remembered]; exact hs.remembered⟩
  · have hlisting : (Exchange.mk request (some x)).listing? = some x := by
      rw [Exchange.listing?, Option.filter_some, if_pos (by rw [hx]; rfl)]
    rw [hlisting] at hconsults ⊢
    refine ⟨hconsults, hx.symm, fun y hy => ?_⟩
    obtain rfl := Option.some.inj hy
    rfl

/-- Fetching the directory does what is promised. -/
theorem Holds.fetchLaw (h : s.Holds had) (hr : Fetches s r t) : FetchLaw s had r t := by
  cases hr with
  | unsent e connectors shared unreachable => exact .unsent rfl ⟨rfl, rfl⟩ unreachable
  | sent connectors shared c address reply answered =>
    have hwire : t.wire = (s.wire.record (c.request .get address s.validators none) reply) := by
      rcases answered.kept_or_replaced with ⟨rfl, _⟩ | ⟨_, _, _, _, _, rfl⟩ <;> rfl
    exact .sent (e := ⟨_, reply⟩) (congrArg Wire.exchanges hwire) rfl rfl
      (h.conditions_eq c address) (answered.law ⟨rfl, rfl⟩)

/-- After fetching the directory the session still holds what belongs together. -/
theorem Holds.fetched (h : s.Holds had) (hr : Fetches s r t) : ∃ had', t.Holds had' := by
  cases hr with
  | unsent e connectors shared => exact ⟨had, h.consults, h.directory, h.remembered⟩
  | sent connectors shared c address reply answered =>
    exact ⟨_, answered.holds h rfl rfl (h.conditions_eq c address) ⟨rfl, rfl⟩ rfl⟩

end Fetching

/-- All that is done in a session keeps what it holds together. -/
theorem holds_discipline : Discipline (fun _ _ => True) fun s t =>
    (∃ had, s.Holds had) → ∃ had, t.Holds had where
  refl _ h := h
  trans h h' hs := h' (h hs)
  connecting s := by
    rintro ⟨had, h⟩
    obtain ⟨_, connectors, shared, hrun⟩ := run_connect s
    rw [hrun]
    exact ⟨had, h.consults, h.directory, h.remembered⟩
  refreshing s := by
    rintro ⟨had, h⟩
    exact h.fetched (fetches_refreshDirectory s)
  fetching c url s := by
    rintro ⟨had, h⟩
    rcases ask_cases c .get url {} none s with ⟨_, ha⟩ | ⟨_, address, reply, _, ha⟩
    · rw [ha]
      exact ⟨had, h⟩
    · rw [ha]
      exact ⟨had, h.exchanged (conditions_request ..) reply⟩
  resetting {s d} c _ := by
    rintro ⟨had, h⟩
    rw [run_bind]
    rcases fetchNonce_cases c d.content.newNonce s with ⟨_, hf⟩ | ⟨_, address, reply, _, hf⟩
    · rw [hf]
      exact ⟨had, h⟩
    · have ht := h.exchanged (conditions_request c .head address {} none) reply
      rw [hf]
      cases grant d.content.newNonce reply with
      | error e => exact ⟨had, ht⟩
      | ok nonce => exact ⟨had, ht.consults, ht.directory, ht.remembered⟩
  sending {s d url payload signer} c _ _ := by
    rintro ⟨had, h⟩
    obtain ⟨r, wire, hr, _, hwire, hrun⟩ := sends_sendOnce c d.content.newNonce url payload signer s
    rw [hrun]
    refine ⟨had, h.of_aside rfl rfl hwire fun e he => ?_⟩
    rcases List.mem_append.mp he with hhead | hpost
    · obtain ⟨address, _, hrequest⟩ := hr.head_request e (by simpa using hhead)
      rw [hrequest]
      exact conditions_request ..
    · obtain ⟨address, nonce, _, _, hrequest⟩ := hr.post_request e (by simpa using hpost)
      rw [hrequest]
      exact conditions_request ..
  sleeping _ _ := by
    rintro ⟨had, h⟩
    exact ⟨had, h.consults, h.directory, h.remembered⟩

/-- A new session has asked for nothing and holds nothing. -/
theorem IsNew.holds {s : Session} (h : s.IsNew) : s.Holds none where
  consults := by
    rw [h.exchanges]
    exact .start
  directory := by
    rw [h.directory]
    rfl
  remembered := by simp

/-- What a session holds together fixes what fetching and using the directory do. -/
theorem Holds.directoryLaw {s : Session} {had : Option Reply} (h : s.Holds had) :
    s.DirectoryLaw had where
  toHolds := h
  cached := h.isSome_directory
  source _ hhad := (h.consults.isSome_directory? hhad).2
  fetches := h.fetchLaw (fetches_refreshDirectory s)
  known d hd := run_currentDirectory s hd
  unknown hd := by
    unfold currentDirectory
    rw [run_bind, run_get]
    simp only [hd]

end Session

namespace Client

/-- After every run, the directory at hand and the remembered validators are those of the last reply
that brought a directory, and each request for the directory asks whether it has changed since the
reply before it. So will the next request, and only a directory that it brings is put in place. -/
theorem directory_keeps_validators (c : Client) (hc : c.session.IsNew) (commands : List Command) :
    ∃ had, (c.after commands).session.DirectoryLaw had := by
  obtain ⟨had, h⟩ := Session.holds_discipline.after c commands ⟨none, hc.holds⟩
  exact ⟨had, h.directoryLaw⟩

/-- The case of a directory of a named provider that comes with a validator, is then unchanged, and
then cannot be read. -/
theorem directory_keeps_validators_letsEncrypt :
    let directory : Resource.Directory := {
      newNonce := "https://localhost/nonce", newAccount := "https://localhost/account"
      newOrder := "https://localhost/order" }
    let listing : Reply := {
      status := ⟨200⟩, headers := [("etag", Utf8.encode "v1")]
      body := Resource.Directory.codec.write directory }
    let uri : Url := {
      scheme := "acme", hasAuthority := true, host := some (.domain "letsencrypt.org") }
    let c : Client := {
      session := {
        uri, provider := .letsEncrypt
        wire := { replies := [listing, some { status := ⟨304⟩ }, some { status := ⟨200⟩ }] } } }
    let commands : List Command := [.showDirectory, .refreshDirectory, .refreshDirectory]
    c.session.IsNew ∧ (c.after commands).session.remembered = { etag := some "v1" } ∧
      ∃ had, (c.after commands).session.DirectoryLaw had :=
  ⟨⟨rfl, rfl, rfl⟩, by decide +kernel, directory_keeps_validators _ ⟨rfl, rfl, rfl⟩ _⟩

end Client

end AcmeClient
