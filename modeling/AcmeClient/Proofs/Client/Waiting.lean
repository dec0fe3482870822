import AcmeClient.Proofs.Client.Discipline
import AcmeClient.Proofs.Poll.Schedule

/-!
# Waiting for resources

The polls of a resource of the server can be written down as a course, and waiting for one of its
states follows that course. Each poll that finds something takes a reply off the wire, so that one
of them comes to an end before the polls run out.
-/

namespace AcmeClient

open Attempt Http

namespace Pollable

/-- What time does to a resource that is polled: a poll may take some, sleep takes what it is told
to, and the resource stays where it is. -/
structure IsTimed (p : Pollable σ) : Prop where
  clock_update : ∀ s, p.clock s ≤ p.clock (p.update.run s).2
  clock_sleep : ∀ d s, p.clock (p.sleep d s) = p.clock s + d.nanoseconds
  location_update : ∀ s, p.location (p.update.run s).2 = p.location s
  location_sleep : ∀ d s, p.location (p.sleep d s) = p.location s

variable (p : Pollable σ) (policy : RetryPolicy) (s : σ)

/-- The state before each poll, if none ends the polling. -/
def reached : Nat → σ
  | 0 => s
  | k + 1 =>
    let polled := p.update.run (reached k)
    p.sleep (polled.1.toOption.join.getD (Course.delay policy k)) polled.2

/-- The state after each poll. -/
def polled (k : Nat) : σ := (p.update.run (p.reached policy s k)).2

/-- How the polls of a resource go, starting now. -/
def course : Course where
  update k := (p.update.run (p.reached policy s k)).1.map fun asked =>
    (p.status (p.polled policy s k), asked)
  takes k := p.clock (p.polled policy s k) - p.clock (p.reached policy s k)
  location := p.location s

/-- The wait that is asked for after a poll is what the poll yields. -/
theorem asked_course (k : Nat) : (p.course policy s).asked k =
    (p.update.run (p.reached policy s k)).1.toOption.join := by
  cases h : (p.update.run (p.reached policy s k)).1 <;>
    simp [Course.asked, course, h, Except.map, Except.toOption]

/-- The next poll comes after the wait. -/
theorem reached_succ (k : Nat) : p.reached policy s (k + 1) =
    p.sleep ((p.course policy s).wait policy k) (p.polled policy s k) := by
  rw [Course.wait, asked_course]
  rfl

variable {p policy s}

/-- A resource stays where it is. -/
theorem IsTimed.location_reached (hp : p.IsTimed) (k : Nat) :
    p.location (p.reached policy s k) = p.location s := by
  induction k with
  | zero => rfl
  | succ k ih => rw [reached_succ, hp.location_sleep, polled, hp.location_update, ih]

/-- The polls of a resource begin when its course says. -/
theorem IsTimed.clock_reached (hp : p.IsTimed) (k : Nat) :
    p.clock (p.reached policy s k) = (p.course policy s).begins policy (p.clock s) k := by
  induction k with
  | zero => rfl
  | succ k ih =>
    have htakes : p.clock (p.reached policy s k) + (p.course policy s).takes k =
        p.clock (p.polled policy s k) := Nat.add_sub_of_le (hp.clock_update _)
    rw [reached_succ, hp.clock_sleep, Course.begins, ← ih, htakes]

/-- A resource is polled as its course says. -/
theorem IsTimed.isFollowed (hp : p.IsTimed) : (p.course policy s).IsFollowed policy (p.clock s) p
    (p.reached policy s) (p.polled policy s) where
  update k := by
    rcases h : p.update.run (p.reached policy s k) with ⟨_ | asked, t⟩ <;>
      simp [course, polled, h, Except.map]
  status {k status asked} hupdate := by
    cases h : (p.update.run (p.reached policy s k)).1 with
    | error e =>
      simp only [course, h, Except.map] at hupdate
      cases hupdate
    | ok found =>
      simp only [course, h, Except.map] at hupdate
      exact congrArg Prod.fst (Except.ok.inj hupdate)
  location k := by
    rw [polled, hp.location_update, hp.location_reached]
    rfl
  clock k := by
    rw [← hp.clock_reached]
    exact (Nat.add_sub_of_le (hp.clock_update _)).symm
  sleep k _ := (reached_succ p policy s k).symm

end Pollable

namespace Session

/-- Whether the clock does not go back and no replies come to those that are still to come. -/
structure GoesOn (s t : Session) : Prop where
  clock : s.clock ≤ t.clock
  replies : t.wire.replies.length ≤ s.wire.replies.length

/-- A session that goes on and on goes on. -/
theorem GoesOn.effect : Effect GoesOn where
  refl _ := ⟨Nat.le_refl _, Nat.le_refl _⟩
  trans h h' := ⟨Nat.le_trans h.clock h'.clock, Nat.le_trans h'.replies h.replies⟩

/-- An exchange takes at most one reply. -/
theorem goesOn_of_tail {s t : Session} (hclock : t.clock = s.clock)
    (hreplies : t.wire.replies = s.wire.replies.tail) : s.GoesOn t := by
  refine ⟨Nat.le_of_eq hclock.symm, ?_⟩
  rw [hreplies, List.length_tail]
  exact Nat.sub_le _ _

/-- A request takes at most one reply. -/
theorem goesOn_ask (c : Connector) (method : Method) (url : String) (validators : Validators)
    (message : Option Jws) : Keeps GoesOn (ask c method url validators message) := by
  intro s
  rcases ask_cases c method url validators message s with ⟨_, h⟩ | ⟨_, _, _, _, h⟩ <;> rw [h]
  · exact GoesOn.effect.refl s
  · exact goesOn_of_tail rfl rfl

/-- A request for a nonce takes at most one reply. -/
theorem goesOn_fetchNonce (c : Connector) (url : String) : Keeps GoesOn (fetchNonce c url) := by
  intro s
  rcases fetchNonce_cases c url s with ⟨_, h⟩ | ⟨_, _, _, _, h⟩ <;> rw [h]
  · exact GoesOn.effect.refl s
  · exact goesOn_of_tail rfl rfl

/-- Taking a nonce takes at most one reply. -/
theorem goesOn_takeNonce (c : Connector) (url : String) : Keeps GoesOn (takeNonce c url) := by
  intro s
  cases hn : s.nonce with
  | some nonce =>
    rw [run_takeNonce_of_some c url s hn]
    exact ⟨Nat.le_refl _, Nat.le_refl _⟩
  | none =>
    rw [run_takeNonce_of_none c url s hn]
    exact goesOn_fetchNonce c url s

/-- Sending a message goes on. -/
theorem goesOn_sendOnce (c : Connector) (nonceUrl url : String) (payload : Option Bytes)
    (signer : Signer) : Keeps GoesOn (sendOnce c nonceUrl url payload signer) :=
  .bind GoesOn.effect (goesOn_takeNonce c nonceUrl) fun _ =>
    .bind GoesOn.effect (goesOn_ask c .post url {} _) fun _ =>
      .bind GoesOn.effect (fun _ => ⟨Nat.le_refl _, Nat.le_refl _⟩) fun _ =>
        .pure GoesOn.effect _

/-- Whatever is done in a session goes on. -/
theorem GoesOn.discipline : Discipline (fun _ _ => True) GoesOn where
  toEffect := GoesOn.effect
  connecting s := by
    obtain ⟨_, _, _, h⟩ := run_connect s
    rw [h]
    exact ⟨Nat.le_refl _, Nat.le_refl _⟩
  refreshing s := by
    have h := refreshed_refreshDirectory s
    generalize (refreshDirectory.run s).1 = r, (refreshDirectory.run s).2 = t at h
    cases h with
    | unsent => exact ⟨Nat.le_refl _, Nat.le_refl _⟩
    | kept | replaced => exact goesOn_of_tail rfl rfl
  fetching c url := goesOn_ask c .get url {} none
  resetting {s _} c _ := Keeps.bind GoesOn.effect (goesOn_fetchNonce c _)
    (fun _ _ => ⟨Nat.le_refl _, Nat.le_refl _⟩) s
  sending {s _ _ _ _} c _ _ := goesOn_sendOnce c _ _ _ _ s
  sleeping _ _ := ⟨Nat.le_add_right _ _, Nat.le_refl _⟩

/-- A request that is answered takes a reply. -/
theorem replies_ask {c : Connector} {method : Method} {url : String} {validators : Validators}
    {message : Option Jws} {s t : Session} {response : Response}
    (h : (ask c method url validators message).run s = (.ok response, t)) :
    t.wire.replies.length < s.wire.replies.length := by
  unfold ask Wire.send at h
  cases ha : address? url with
  | none => simp [ha] at h
  | some address =>
    cases hw : s.wire.isConnected with
    | false => simp [ha, hw, run_bind] at h
    | true =>
      cases hr : s.wire.replies with
      | nil => simp [ha, hw, hr, run_bind] at h
      | cons reply replies =>
        cases reply with
        | none => simp [ha, hw, hr, run_bind] at h
        | some reply =>
          simp only [ha, run_bind, run_get, hw, ite_true, hr, List.head?_cons, Option.join_some,
            Option.map_some, run_set, run_pure] at h
          obtain ⟨_, rfl⟩ := Prod.mk.inj h
          rw [Wire.record, hr]
          exact Nat.lt_succ_self _

/-- A message that is answered takes a reply. -/
theorem replies_sendOnce {c : Connector} {nonceUrl url : String} {payload : Option Bytes}
    {signer : Signer} {s t : Session} {response : Response}
    (h : (sendOnce c nonceUrl url payload signer).run s = (.ok response, t)) :
    t.wire.replies.length < s.wire.replies.length := by
  obtain ⟨nonce, u, hnonce, h⟩ := run_bind_eq_ok h
  obtain ⟨_, v, hask, h⟩ := run_bind_eq_ok h
  cases h
  have htaken : v.wire.replies.length < u.wire.replies.length := replies_ask hask
  exact Nat.lt_of_lt_of_le htaken ((goesOn_takeNonce c nonceUrl).of_run hnonce).replies

/-- A message that succeeds, at once or with another nonce, takes a reply. -/
theorem replies_send {url : String} {payload : Option Bytes} {signer : Signer} {s t : Session}
    {response : Response} (h : (send url payload signer).run s = (.ok response, t)) :
    t.wire.replies.length < s.wire.replies.length := by
  obtain ⟨c, u, hc, h⟩ := run_bind_eq_ok h
  obtain ⟨nonceUrl, v, hnonce, h⟩ := run_bind_eq_ok h
  obtain ⟨first, w, hfirst, h⟩ := run_bind_eq_ok h
  have hbegun : s.GoesOn v := GoesOn.effect.trans (GoesOn.discipline.connecting.of_run hc)
    ((GoesOn.discipline.endpoint .newNonce).of_run hnonce)
  have hrest : w.GoesOn t := by
    cases hs : first.success with
    | ok response =>
      simp only [hs] at h
      cases h
      exact GoesOn.effect.refl _
    | error e =>
      simp only [hs] at h
      split at h
      · obtain ⟨second, x, hsecond, h⟩ := run_bind_eq_ok h
        obtain rfl : x = t := congrArg Prod.snd h
        exact (goesOn_sendOnce c nonceUrl url payload signer).of_run hsecond
      · cases h
  have htaken := replies_sendOnce hfirst
  exact Nat.lt_of_le_of_lt hrest.replies (Nat.lt_of_lt_of_le htaken hbegun.replies)

end Session

namespace Tracked

variable [Described α]

/-- An update that succeeds takes a reply. -/
theorem replies_update {s s' : Session} {t t' : Tracked α} {asked : Option Duration}
    (h : update.run (s, t) = (.ok asked, s', t')) :
    s'.wire.replies.length < s.wire.replies.length := by
  have hs : (update.run (s, t)).2.1 = s' := by rw [h]
  rw [run_update] at h hs
  rw [session_conclude] at hs
  rcases hsend : (Session.send t.location none t.owner.signer).run s with ⟨e | response, u⟩
  · rw [hsend] at h
    cases h
  · rw [hsend] at hs
    subst hs
    exact Session.replies_send hsend

variable [Staged α]

/-- Resources are polled in time. -/
theorem isTimed_pollable : (pollable α).IsTimed where
  clock_update st :=
    (Session.GoesOn.discipline.update (s := st.1) (t := st.2) fun _ => trivial).clock
  clock_sleep _ _ := rfl
  location_update st := (follows_update st).location_eq
  location_sleep _ _ := rfl

/-- As long as no poll ends the polling, each of them takes a reply. -/
theorem replies_reached {done : Status → Bool} {policy : RetryPolicy} {st : Session × Tracked α}
    {n : Nat} (h : ((pollable α).course policy st).Reaches done policy st.1.clock n) :
    ((pollable α).reached policy st n).1.wire.replies.length + n ≤
      st.1.wire.replies.length := by
  induction n with
  | zero => exact Nat.le_refl _
  | succ n ih =>
    have hn := ih fun j hj => h j (Nat.lt_succ_of_lt hj)
    obtain ⟨status, asked, hupdate, _, _⟩ := Course.goes_on_of_not_ends (h n (Nat.lt_succ_self n))
    have htaken : ((pollable α).polled policy st n).1.wire.replies.length <
        ((pollable α).reached policy st n).1.wire.replies.length := by
      rcases hrun : (pollable α).update.run ((pollable α).reached policy st n) with
        ⟨e | asked', st'⟩
      · simp [Pollable.course, hrun, Except.map] at hupdate
      · rw [Pollable.polled, hrun]
        exact replies_update hrun
    have hslept : ((pollable α).reached policy st (n + 1)).1.wire.replies =
        ((pollable α).polled policy st n).1.wire.replies := rfl
    rw [hslept]
    omega

/-- Waiting for a state of a resource ends with the first poll of its course that ends it, and
leaves what this poll leaves. -/
theorem run_await (done : Status → Bool) (policy : RetryPolicy) (s : Session) (t : Tracked α) :
    let c := (pollable α).course policy (s, t)
    ∃ k r, c.Reaches done policy s.clock k ∧ c.Ends done policy s.clock k r ∧
      (await done policy).run (s, t) = (r, (pollable α).polled policy (s, t) k) := by
  intro c
  have hfollowed : c.IsFollowed policy s.clock _ _ _ := isTimed_pollable.isFollowed
  rcases c.ends_or_reaches done policy s.clock (s.wire.replies.length + 1) with
    ⟨k, hk, r, hreaches, hends⟩ | hreaches
  · refine ⟨k, r, hreaches, hends, ?_⟩
    have hrun : ((pollable α).poll done policy (s.wire.replies.length + 1)).run (s, t) = _ :=
      Course.run_poll_of_ends hfollowed rfl hreaches hends hk
    unfold await
    rw [run_bind, run_get]
    dsimp only
    rw [run_bind, hrun]
    cases r <;> rfl
  · -- that many polls would take more replies than there are
    have htaken : _ ≤ s.wire.replies.length := replies_reached hreaches
    omega

end Tracked

end AcmeClient
