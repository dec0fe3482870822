import AcmeClient.Proofs.Session.Rounds

/-!
# The retry of a refused nonce

A message is sent in one round. If the answer refuses its nonce, there is a second round with
another nonce, and no third one. The second message is the first one but for the nonce and the
signature, and the last round says how the whole ends.
-/

namespace AcmeClient

open Http

namespace Problem

/-- The types of problems with a nonce. -/
def badNonceTypes : List String :=
  ["badNonce", "urn:ietf:params:acme:error:badNonce", "urn:acme:error:badNonce"]

/-- A name is found behind a beginning if they make up the type. -/
theorem after_map_eq_some_iff (start name type : String) :
    (Text.after? start.toList type.toList).map String.ofList = some name ↔
      type = start ++ name := by
  rw [Option.map_eq_some_iff]
  constructor
  · rintro ⟨rest, hrest, rfl⟩
    rw [Text.after?_eq_some_iff] at hrest
    apply String.toList_injective
    rw [hrest, String.toList_append, String.toList_ofList]
  · rintro rfl
    exact ⟨name.toList, Text.after?_eq_some_iff.mpr String.toList_append, String.ofList_toList⟩

/-- The short name of a problem is what follows one of the known beginnings. -/
theorem shortName?_eq_some_iff (p : Problem) (name : String) :
    p.shortName? = some name ↔ ∃ start ∈ typePrefixes, p.type = start ++ name := by
  unfold shortName?
  constructor
  · intro h
    obtain ⟨start, hmem, hs⟩ := List.exists_of_findSome?_eq_some h
    exact ⟨start, hmem, (after_map_eq_some_iff start name p.type).mp hs⟩
  · rintro ⟨start, hmem, htype⟩
    have hfound := (after_map_eq_some_iff start name p.type).mpr htype
    simp only [typePrefixes, List.mem_cons, List.not_mem_nil, or_false] at hmem
    unfold typePrefixes
    rcases hmem with rfl | rfl
    · rw [List.findSome?_cons, hfound]
    · -- a type with the second beginning does not have the first one
      have hnone : Text.after? "urn:ietf:params:acme:error:".toList p.type.toList = none := by
        rw [htype, String.toList_append]
        rfl
      rw [List.findSome?_cons, hnone, Option.map_none, List.findSome?_cons, hfound]

/-- A nonce is refused by problems of these types. -/
theorem isBadNonce_iff (p : Problem) : p.isBadNonce = true ↔ p.type ∈ badNonceTypes := by
  have hshort := p.shortName?_eq_some_iff "badNonce"
  simp only [typePrefixes, List.mem_cons, List.not_mem_nil, or_false, exists_eq_or_imp,
    exists_eq_left] at hshort
  rw [isBadNonce, Bool.or_eq_true, beq_iff_eq, beq_iff_eq, hshort]
  simp only [badNonceTypes, List.mem_cons, List.not_mem_nil, or_false]
  rw [or_comm]
  rfl

end Problem

namespace Http

/-- A reply that refuses the nonce of a message: no success, but a problem document about it. -/
structure Reply.RefusesNonce (reply : Reply) : Prop where
  failure : reply.status.isSuccess = false
  mediaType : (⟨"", reply⟩ : Response).mediaType? = some Response.problemType
  problem : ∃ p, Problem.codec.decode reply.body = .ok p ∧ p.type ∈ Problem.badNonceTypes

/-- A response stands for a problem with the nonce if its body is a document about one. -/
theorem Response.isBadNonce_problem_iff (r : Response) :
    r.problem.isBadNonce = true ↔ r.mediaType? = some Response.problemType ∧
      ∃ p, Problem.codec.decode r.reply.body = .ok p ∧ p.type ∈ Problem.badNonceTypes := by
  rw [Problem.isBadNonce_iff]
  unfold Response.problem
  by_cases hm : r.mediaType? = some Response.problemType
  · rw [if_pos hm]
    cases Problem.codec.decode r.reply.body with
    | ok p => simp [hm]
    | error e => simp [Problem.badNonceTypes]
  · rw [if_neg hm]
    simp [Problem.badNonceTypes, hm]

/-- The errors of refused nonces are those of replies that refuse them. -/
theorem Reply.refusesNonce_iff (reply : Reply) (url : String) :
    reply.RefusesNonce ↔
      ∃ e, Response.success ⟨url, reply⟩ = .error e ∧ e.isBadNonce = true := by
  have hproblem := Response.isBadNonce_problem_iff ⟨url, reply⟩
  unfold Response.success
  cases hs : reply.status.isSuccess with
  | true =>
    simp only [ite_true, reduceCtorEq, false_and, exists_false, iff_false]
    intro h
    have hfailure := h.failure
    rw [hs] at hfailure
    cases hfailure
  | false =>
    simp only [Bool.false_eq_true, ite_false, Except.error.injEq, exists_eq_left',
      Error.isBadNonce]
    rw [hproblem]
    exact ⟨fun h => ⟨h.mediaType, h.problem⟩, fun h => ⟨hs, h.1, h.2⟩⟩

end Http

namespace Round

/-- The message of a round went out and the reply refuses its nonce. -/
def IsRefused (r : Round) : Prop :=
  ∃ e ∈ r.post, ∃ reply, e.reply = some reply ∧ reply.RefusesNonce

/-- The message of a round that is refused went out. -/
theorem IsRefused.isSome_post {r : Round} (h : r.IsRefused) : r.post.isSome := by
  obtain ⟨e, he, _⟩ := h
  exact Option.isSome_of_mem he

/-- A round is refused if its response is an error about the nonce. -/
theorem isRefused_iff (nonceUrl url : String) (r : Round) :
    r.IsRefused ↔ ∃ x, r.response nonceUrl url = .ok x ∧
      ∃ e, x.success = .error e ∧ e.isBadNonce = true := by
  unfold IsRefused
  constructor
  · rintro ⟨e, he, reply, hreply, hrefuses⟩
    exact ⟨⟨url, reply⟩, response_eq_ok_iff.mpr ⟨e, he, reply, hreply, rfl⟩,
      (reply.refusesNonce_iff url).mp hrefuses⟩
  · rintro ⟨x, hx, hbad⟩
    obtain ⟨e, he, reply, hreply, rfl⟩ := response_eq_ok_iff.mp hx
    exact ⟨e, he, reply, hreply, (reply.refusesNonce_iff url).mpr hbad⟩

end Round

variable (c : Connector) (nonceUrl url : String) (payload : Option Bytes) (signer : Signer)

/-- The two rounds in which a message is delivered; the second one is only for a refusal. -/
structure Delivery (slot : Option String) (isConnected : Bool) (first second : Round) : Prop where
  first_sends : first.Sends c nonceUrl url payload signer slot isConnected
  second_sends : first.IsRefused →
    second.Sends c nonceUrl url payload signer first.slot isConnected
  second_empty : ¬first.IsRefused → second = {}

namespace Delivery

variable {c nonceUrl url payload signer} {slot : Option String} {isConnected : Bool}
  {first second : Round}

/-- The messages of a delivery are those of its rounds. -/
theorem filter_isPost
    (h : Delivery c nonceUrl url payload signer slot isConnected first second) :
    (first.exchanges ++ second.exchanges).filter (·.isPost) =
      first.post.toList ++ second.post.toList := by
  rw [List.filter_append, h.first_sends.filter_isPost]
  by_cases hr : first.IsRefused
  · rw [(h.second_sends hr).filter_isPost]
  · rw [h.second_empty hr]
    rfl

/-- There is a second message if the nonce of the first is refused and there is another one. -/
theorem second_post_iff
    (h : Delivery c nonceUrl url payload signer slot isConnected first second) :
    second.post.isSome ↔ first.IsRefused ∧ (second.nonce? first.slot).isSome := by
  by_cases hr : first.IsRefused
  · -- the first message went out, so the way to the URL is open
    obtain ⟨_, hopen⟩ := h.first_sends.post_iff.mp hr.isSome_post
    rw [(h.second_sends hr).post_iff]
    exact ⟨fun hsecond => ⟨hr, hsecond.1⟩, fun hsecond => ⟨hsecond.2, hopen⟩⟩
  · rw [h.second_empty hr]
    constructor
    · intro hsecond
      cases hsecond
    · rintro ⟨hrefused, _⟩
      exact absurd hrefused hr

/-- A second message goes out after a request for a nonce exactly if the first left none. -/
theorem head_second_iff
    (h : Delivery c nonceUrl url payload signer slot isConnected first second)
    (hpost : second.post.isSome) : second.head.isSome ↔ first.slot = none :=
  (h.second_sends (h.second_post_iff.mp hpost).1).head_iff_of_post hpost

/-- The second message is the first one with another nonce and the signature that goes with it. -/
theorem second_request
    (h : Delivery c nonceUrl url payload signer slot isConnected first second) :
    ∀ p ∈ first.post, ∀ q ∈ second.post, ∃ m nonce signature, p.request.message = some m ∧
      q.request = { p.request with
        message := some { m with header := { m.header with nonce }, signature } } := by
  intro p hp q hq
  have hsecond := h.second_sends (h.second_post_iff.mp (Option.isSome_of_mem hq)).1
  obtain ⟨address, nonce, haddress, _, hp⟩ := h.first_sends.post_request p hp
  obtain ⟨address', nonce', haddress', _, hq⟩ := hsecond.post_request q hq
  rw [haddress] at haddress'
  cases haddress'
  refine ⟨signer.sign url nonce payload, nonce', (signer.sign url nonce' payload).signature, ?_, ?_⟩
  · rw [hp]
    rfl
  · rw [hp, hq]
    rfl

end Delivery

/-- What is promised of a delivery and its result. -/
structure RetryLaw (slot : Option String) (isConnected : Bool) (first second : Round)
    (result : Except Error Response) : Prop
    extends Delivery c nonceUrl url payload signer slot isConnected first second where
  posts_le : ((first.exchanges ++ second.exchanges).filter (·.isPost)).length ≤ 2
  posts_eq_two : ((first.exchanges ++ second.exchanges).filter (·.isPost)).length = 2 ↔
    first.IsRefused ∧ (second.nonce? first.slot).isSome
  /-- A nonce is asked for before a message exactly if the slot is empty then. -/
  head_first : first.post.isSome → (first.head.isSome ↔ slot = none)
  head_second : second.post.isSome → (second.head.isSome ↔ first.slot = none)
  /-- The messages differ in nonce and signature only. -/
  second_request : ∀ p ∈ first.post, ∀ q ∈ second.post, ∃ m nonce signature,
    p.request.message = some m ∧ q.request = { p.request with
      message := some { m with header := { m.header with nonce }, signature } }
  /-- The last round says how it ends. -/
  result_refused : first.IsRefused → result = second.result nonceUrl url
  result_kept : ¬first.IsRefused → result = first.result nonceUrl url

namespace Session

variable (s : Session)

/-- Sending a message is a delivery; the last round leaves the nonce. -/
theorem run_sendSigned {d : CachedDirectory} (hd : s.directory = some d) :
    ∃ first second wire, Delivery c d.content.newNonce url payload signer s.nonce
        s.wire.isConnected first second ∧
      wire.exchanges = s.wire.exchanges ++ (first.exchanges ++ second.exchanges) ∧
      (first.IsRefused ∧ (sendSigned c url payload signer).run s =
          (second.result d.content.newNonce url, s.afterRound wire second) ∨
        ¬first.IsRefused ∧ (sendSigned c url payload signer).run s =
          (first.result d.content.newNonce url, s.afterRound wire first)) := by
  obtain ⟨first, wire, hfirst, hopen, hwire, hrun⟩ :=
    sends_sendOnce c d.content.newNonce url payload signer s
  unfold sendSigned
  rw [Attempt.run_bind, run_endpoint d.content.newNonce s hd rfl]
  dsimp only
  rw [Attempt.run_bind, hrun]
  by_cases hrefused : first.IsRefused
  · obtain ⟨x, hx, e, hsuccess, hbad⟩ :=
      (first.isRefused_iff d.content.newNonce url).mp hrefused
    obtain ⟨second, wire', hsecond, _, hwire', hrun'⟩ :=
      sends_sendOnce c d.content.newNonce url payload signer (s.afterRound wire first)
    rw [nonce_afterRound, wire_afterRound, hopen] at hsecond
    rw [wire_afterRound, hwire, List.append_assoc] at hwire'
    refine ⟨first, second, wire', ⟨hfirst, fun _ => hsecond, fun h => absurd hrefused h⟩, hwire',
      Or.inl ⟨hrefused, ?_⟩⟩
    simp only [hx, hsuccess, hbad, ite_true]
    rw [Attempt.run_bind, hrun']
    cases hy : second.response d.content.newNonce url <;>
      simp [Round.result, hy, Except.bind, afterRound]
  · refine ⟨first, {}, wire, ⟨hfirst, fun h => absurd h hrefused, fun _ => rfl⟩, ?_,
      Or.inr ⟨hrefused, ?_⟩⟩
    · rw [hwire]
      exact congrArg _ (List.append_nil _).symm
    · cases hx : first.response d.content.newNonce url with
      | error e => simp [Round.result, hx, Except.bind]
      | ok x =>
        cases hsuccess : x.success with
        | ok y => simp [Round.result, hx, hsuccess, Except.bind]
        | error e =>
          have hbad : e.isBadNonce ≠ true := fun hbad => hrefused
            ((first.isRefused_iff d.content.newNonce url).mpr ⟨x, hx, e, hsuccess, hbad⟩)
          simp [Round.result, hx, hsuccess, hbad, Except.bind]

/-- A message is sent in one or two rounds, if there is a connector for it. -/
theorem run_send_cases {d : CachedDirectory} (hd : s.directory = some d) :
    (∃ e connectors shared, (connect.run s).1 = .error e ∧
      (send url payload signer).run s = (.error e, s.reconnected connectors shared)) ∨
    ∃ c first second, (connect.run s).1 = .ok c ∧
      Delivery c d.content.newNonce url payload signer s.nonce s.wire.isConnected first second ∧
      ((send url payload signer).run s).2.wire.exchanges =
        s.wire.exchanges ++ (first.exchanges ++ second.exchanges) := by
  unfold send
  obtain ⟨r, connectors, shared, hconnect⟩ := run_connect s
  rw [Attempt.run_bind, hconnect]
  cases r with
  | error e => exact Or.inl ⟨e, connectors, shared, rfl, rfl⟩
  | ok c =>
    right
    obtain ⟨first, second, wire, hdelivery, hwire, hrun⟩ :=
      run_sendSigned c url payload signer (s.reconnected connectors shared) hd
    refine ⟨c, first, second, rfl, hdelivery, ?_⟩
    rcases hrun with ⟨_, hrun⟩ | ⟨_, hrun⟩
    all_goals
      dsimp only
      rw [hrun]
      exact hwire

/-- A message is sent at most twice: once more only if its nonce is refused. -/
theorem sendSigned_retries_once {d : CachedDirectory} (hd : s.directory = some d) :
    ∃ first second,
      ((sendSigned c url payload signer).run s).2.wire.exchanges =
        s.wire.exchanges ++ (first.exchanges ++ second.exchanges) ∧
      RetryLaw c d.content.newNonce url payload signer s.nonce s.wire.isConnected first second
        ((sendSigned c url payload signer).run s).1 := by
  obtain ⟨first, second, wire, h, hwire, hrun⟩ := run_sendSigned c url payload signer s hd
  have hposts := h.filter_isPost
  have hsecond := h.second_post_iff
  refine ⟨first, second, ?_, h, ?_, ?_, h.first_sends.head_iff_of_post, h.head_second_iff,
    h.second_request, ?_, ?_⟩
  · rcases hrun with ⟨_, hrun⟩ | ⟨_, hrun⟩ <;> simp [hrun, hwire]
  · rw [hposts]
    cases first.post <;> cases second.post <;> simp
  · rw [hposts, ← hsecond]
    have hfirst : second.post.isSome → first.post.isSome := by
      intro hs
      exact (hsecond.mp hs).1.isSome_post
    cases hp : first.post <;> cases hq : second.post <;> simp_all
  · intro hr
    rcases hrun with ⟨_, hrun⟩ | ⟨hkept, _⟩
    · rw [hrun]
    · exact absurd hr hkept
  · intro hr
    rcases hrun with ⟨hagain, _⟩ | ⟨_, hrun⟩
    · exact absurd hagain hr
    · rw [hrun]

/-- The case of a server that refuses the nonce in the slot and takes the one it then grants. -/
theorem sendSigned_retries_once_localhost :
    let c : Connector := { number := 0, settings := {}, roots := none }
    let signer : Signer := { key := ⟨1, by decide, by decide⟩ }
    let uri : Url := { scheme := "https", hasAuthority := true, host := some (.domain "localhost") }
    let d : CachedDirectory := {
      content := { newNonce := "https://localhost/nonce", newAccount := "https://localhost/account",
                   newOrder := "https://localhost/order" }
      validators := {}
      number := 0 }
    let refusal : Reply := {
      status := ⟨400⟩
      headers := [("content-type", Utf8.encode "application/problem+json")]
      body := Utf8.encode "\x7b\"type\":\"urn:ietf:params:acme:error:badNonce\"\x7d" }
    let grant : Reply := { status := ⟨200⟩, headers := [("replay-nonce", Utf8.encode "bm9uY2U")] }
    let s : Session := {
      uri, provider := .generic, nonces := { nonce := some "dXNlZA" }, directory := some d
      wire := { replies := [some refusal, some grant, some { status := ⟨201⟩ }] } }
    s.directory = some d ∧ ∃ first second,
      ((sendSigned c "https://localhost/account" none signer).run s).2.wire.exchanges =
        s.wire.exchanges ++ (first.exchanges ++ second.exchanges) ∧
      RetryLaw c d.content.newNonce "https://localhost/account" none signer s.nonce
        s.wire.isConnected first second
        ((sendSigned c "https://localhost/account" none signer).run s).1 :=
  ⟨rfl, sendSigned_retries_once _ _ _ _ _ rfl⟩

end Session

end AcmeClient
