import AcmeClient.Proofs.Poll.Course
import Mathlib

/-!
# The schedule of polls

How polling goes can be read off a course without following it: the waits are given in closed form,
and the first poll that fails, finds what is waited for or leaves too little time for the next wait
ends it. All waits together stay within the budget.
-/

namespace AcmeClient

open Attempt

namespace RetryPolicy

variable {policy : RetryPolicy} {start deadline : Nat}

/-- A deadline is the end of the budget, within the range of clocks. -/
theorem deadline?_eq_some_iff : policy.deadline? start = some deadline ↔
    start + policy.timeout.nanoseconds = deadline ∧ deadline < clockEnd := by
  unfold deadline?
  dsimp only
  split
  · rename_i h
    rw [Option.some.injEq]
    constructor
    · rintro rfl
      exact ⟨rfl, h⟩
    · exact And.left
  · rename_i h
    constructor
    · exact fun heq => absurd heq (by simp)
    · rintro ⟨rfl, hlt⟩
      exact absurd hlt h

/-- There is no deadline if the end of the budget is past the range of clocks. -/
theorem deadline?_eq_none_iff :
    policy.deadline? start = none ↔ clockEnd ≤ start + policy.timeout.nanoseconds := by
  unfold deadline?
  dsimp only
  split <;> simp <;> omega

/-- The delay after a delay is the one times the factor, up to the maximum; that a product past the
longest duration is clipped makes no difference. -/
theorem nanoseconds_nextDelay (policy : RetryPolicy) (delay : Duration) :
    (policy.nextDelay delay).nanoseconds =
      min policy.maxDelay.nanoseconds (delay.nanoseconds * policy.backoff.toNat) := by
  have hmax : policy.maxDelay.nanoseconds ≤ Duration.longest.nanoseconds :=
    Nat.le_sub_one_of_lt policy.maxDelay.inRange
  rw [nextDelay, Duration.nanoseconds_shorter, Duration.times,
    Duration.nanoseconds_ofNanoseconds_eq_min]
  omega

end RetryPolicy

namespace Course

/-- The delay after each poll in nanoseconds: the first one is as it is, and each later one has the
factor once more, up to the maximum. -/
def plannedDelay (policy : RetryPolicy) (k : Nat) : Nat :=
  if k = 0 then policy.initialDelay.nanoseconds
  else min policy.maxDelay.nanoseconds
    (policy.initialDelay.nanoseconds * policy.backoff.toNat ^ k)

/-- The delays are as planned, although each is computed from the one before. -/
theorem nanoseconds_delay (policy : RetryPolicy) (k : Nat) :
    (delay policy k).nanoseconds = plannedDelay policy k := by
  induction k with
  | zero => rfl
  | succ k ih =>
    rw [delay, RetryPolicy.nanoseconds_nextDelay, ih, plannedDelay, plannedDelay,
      if_neg (Nat.succ_ne_zero k)]
    by_cases hk : k = 0
    · subst hk
      simp
    · rw [if_neg hk]
      generalize hpower : policy.initialDelay.nanoseconds * policy.backoff.toNat ^ k = power
      have hnext : policy.initialDelay.nanoseconds * policy.backoff.toNat ^ (k + 1) =
          power * policy.backoff.toNat := by
        rw [← hpower, pow_succ, Nat.mul_assoc]
      rw [hnext]
      rcases Nat.le_total power policy.maxDelay.nanoseconds with hle | hle
      · rw [Nat.min_eq_right hle]
      · -- past the maximum the delay stays there, unless the factor is zero
        rw [Nat.min_eq_left hle]
        rcases Nat.eq_zero_or_pos policy.backoff.toNat with hzero | hpos
        · have hnone : power = 0 := by
            rw [← hpower, hzero]
            simp [hk]
          rw [hzero]
          omega
        · have hmax := Nat.le_mul_of_pos_right policy.maxDelay.nanoseconds hpos
          have hpower := Nat.le_mul_of_pos_right power hpos
          omega

variable (c : Course) (done : Status → Bool) (policy : RetryPolicy) (start : Nat)

/-- How a poll ends the polling: it fails, finds a state that is waited for, or is followed by a
wait that is longer than what is left of a budget within the range of clocks. -/
inductive Ends (k : Nat) : Except Error Status → Prop
  | failed (e : Error) (hupdate : c.update k = .error e) : Ends k (.error e)
  | found (status : Status) (asked : Option Duration) (hupdate : c.update k = .ok (status, asked))
      (hdone : done status = true) : Ends k (.ok status)
  | timedOut (status : Status) (asked : Option Duration)
      (hupdate : c.update k = .ok (status, asked)) (hdone : done status = false)
      (hbudget : start + policy.timeout.nanoseconds < RetryPolicy.clockEnd)
      (hlate : start + policy.timeout.nanoseconds - (c.begins policy start k + c.takes k) <
        (c.wait policy k).nanoseconds) : Ends k (.error (.timeout c.location status))

/-- Whether no poll before some poll ends the polling. -/
def Reaches (k : Nat) : Prop := ∀ j < k, ∀ r, ¬c.Ends done policy start j r

variable {c done policy start} {k : Nat}

/-- A poll that does not end the polling has found something that is not waited for, and leaves
enough time for the next wait. -/
theorem goes_on_of_not_ends (h : ∀ r, ¬c.Ends done policy start k r) :
    ∃ status asked, c.update k = .ok (status, asked) ∧ done status = false ∧
      ¬c.IsLast policy start (policy.deadline? start) k := by
  cases hupdate : c.update k with
  | error e => exact absurd (.failed e hupdate) (h _)
  | ok found =>
    obtain ⟨status, asked⟩ := found
    have hdone : done status = false := by
      cases hdone : done status with
      | false => rfl
      | true => exact absurd (.found status asked hupdate hdone) (h _)
    refine ⟨status, asked, rfl, hdone, fun hlast => ?_⟩
    obtain ⟨deadline, hdeadline, hlate⟩ := (Option.any_eq_true _ _).mp hlast
    obtain ⟨rfl, hbudget⟩ := RetryPolicy.deadline?_eq_some_iff.mp hdeadline
    exact h _ (.timedOut status asked hupdate hdone hbudget (of_decide_eq_true hlate))

/-- The wait after a poll that has found something. -/
theorem getD_asked {status : Status} {asked : Option Duration}
    (hupdate : c.update k = .ok (status, asked)) :
    asked.getD (delay policy k) = c.wait policy k := by
  simp [Course.wait, Course.asked, hupdate]

/-- Whether a state is polled as a course says, given the states before and after each poll. -/
structure IsFollowed (c : Course) (policy : RetryPolicy) (start : Nat) (p : Pollable σ)
    (before after : Nat → σ) : Prop where
  update : ∀ k, p.update.run (before k) = ((c.update k).map (·.2), after k)
  status : ∀ {k status asked}, c.update k = .ok (status, asked) → p.status (after k) = status
  location : ∀ k, p.location (after k) = c.location
  clock : ∀ k, p.clock (after k) = c.begins policy start k + c.takes k
  sleep : ∀ k, (c.update k).isOk → p.sleep (c.wait policy k) (after k) = before (k + 1)

section Following

variable {p : Pollable σ} {before after : Nat → σ}

/-- A poll that does not end the polling is followed by the next one. -/
theorem run_pollFrom_of_not_ends (hp : c.IsFollowed policy start p before after)
    (h : ∀ r, ¬c.Ends done policy start k r) (polls : Nat) :
    (p.pollFrom done policy (policy.deadline? start) (polls + 1) (delay policy k)).run (before k) =
      (p.pollFrom done policy (policy.deadline? start) polls (delay policy (k + 1))).run
        (before (k + 1)) := by
  obtain ⟨status, asked, hupdate, hdone, hlast⟩ := goes_on_of_not_ends h
  have hsleep := hp.sleep k (by rw [hupdate]; rfl)
  rw [Pollable.pollFrom, run_bind, hp.update, hupdate]
  dsimp only [Except.map]
  rw [run_bind, run_get]
  dsimp only
  rw [getD_asked hupdate, hp.status hupdate, hp.clock, if_neg (Bool.eq_false_iff.mp hdone),
    if_neg hlast, run_bind, run_set, hsleep]
  rfl

/-- Polling gets to every poll before which none ends it. -/
theorem run_poll_of_reaches (hp : c.IsFollowed policy start p before after)
    (hstart : p.clock (before 0) = start) {n : Nat} (h : c.Reaches done policy start n)
    (polls : Nat) : (p.poll done policy (n + polls)).run (before 0) =
      (p.pollFrom done policy (policy.deadline? start) polls (delay policy n)).run (before n) := by
  induction n generalizing polls with
  | zero =>
    subst hstart
    rw [Nat.zero_add]
    rfl
  | succ n ih =>
    have hbefore := ih (fun j hj => h j (Nat.lt_succ_of_lt hj)) (polls + 1)
    rw [Nat.add_right_comm, Nat.add_assoc, hbefore]
    exact run_pollFrom_of_not_ends hp (h n (Nat.lt_succ_self n)) polls

/-- Polling ends with a poll that ends it, if there are that many. -/
theorem run_pollFrom_of_ends (hp : c.IsFollowed policy start p before after)
    {r : Except Error Status} (h : c.Ends done policy start k r) (polls : Nat) :
    (p.pollFrom done policy (policy.deadline? start) (polls + 1) (delay policy k)).run (before k) =
      (r.map some, after k) := by
  rw [Pollable.pollFrom, run_bind, hp.update]
  cases h with
  | failed e hupdate =>
    rw [hupdate]
    rfl
  | found status asked hupdate hdone =>
    rw [hupdate]
    dsimp only [Except.map]
    rw [run_bind, run_get]
    dsimp only
    rw [hp.status hupdate, if_pos hdone]
    rfl
  | timedOut status asked hupdate hdone hbudget hlate =>
    have hlast : c.IsLast policy start (policy.deadline? start) k := by
      rw [RetryPolicy.deadline?_eq_some_iff.mpr ⟨rfl, hbudget⟩]
      exact decide_eq_true hlate
    rw [hupdate]
    dsimp only [Except.map]
    rw [run_bind, run_get]
    dsimp only
    rw [getD_asked hupdate, hp.status hupdate, hp.clock, hp.location,
      if_neg (Bool.eq_false_iff.mp hdone), if_pos hlast]
    rfl

/-- Polling that gets to a poll ends with it if that ends it. -/
theorem run_poll_of_ends (hp : c.IsFollowed policy start p before after)
    (hstart : p.clock (before 0) = start) {r : Except Error Status}
    (hreaches : c.Reaches done policy start k) (hends : c.Ends done policy start k r) {polls : Nat}
    (hpolls : k < polls) : (p.poll done policy polls).run (before 0) = (r.map some, after k) := by
  obtain ⟨more, rfl⟩ := Nat.exists_eq_add_of_le hpolls
  rw [Nat.succ_eq_add_one, Nat.add_right_comm, Nat.add_assoc,
    run_poll_of_reaches hp hstart hreaches]
  exact run_pollFrom_of_ends hp hends more

end Following

/-- How far the course has been followed when a poll ends the polling. -/
def stopped (c : Course) (policy : RetryPolicy) (start k : Nat) : Progress :=
  { c.after policy start k with
    status := match c.update k with
      | .ok (status, _) => status
      | .error _ => (c.before policy start k).status }

/-- A course itself is polled as it says. -/
theorem isFollowed_pollable (c : Course) (policy : RetryPolicy) (start : Nat) :
    c.IsFollowed policy start c.pollable (c.before policy start) (c.stopped policy start) where
  update k := by
    cases hupdate : c.update k <;>
      simp [pollable, before, after, stopped, hupdate, Except.map, List.range_succ]
  status hupdate := by simp [pollable, stopped, hupdate]
  location _ := rfl
  clock _ := rfl
  sleep k hok := by
    have hstopped : c.stopped policy start k = c.after policy start k := by
      cases hupdate : c.update k with
      | error e =>
        rw [hupdate] at hok
        cases hok
      | ok found => simp [stopped, after, Course.status, hupdate]
    rw [hstopped, sleep_after]

/-- Whatever number of polls is allowed, the polling comes to the first one that ends it, or past
all of them. -/
theorem ends_or_reaches (c : Course) (done : Status → Bool) (policy : RetryPolicy)
    (start polls : Nat) :
    (∃ k < polls, ∃ r, c.Reaches done policy start k ∧ c.Ends done policy start k r) ∨
      c.Reaches done policy start polls := by
  induction polls with
  | zero => exact Or.inr fun j hj => absurd hj (Nat.not_lt_zero j)
  | succ polls ih =>
    rcases ih with ⟨k, hk, r, hreaches, hends⟩ | hreaches
    · exact Or.inl ⟨k, Nat.lt_succ_of_lt hk, r, hreaches, hends⟩
    · by_cases hends : ∃ r, c.Ends done policy start polls r
      · obtain ⟨r, hr⟩ := hends
        exact Or.inl ⟨polls, Nat.lt_succ_self polls, r, hreaches, hr⟩
      · refine Or.inr fun j hj => ?_
        rcases Nat.lt_succ_iff_lt_or_eq.mp hj with hlt | rfl
        · exact hreaches j hlt
        · exact not_exists.mp hends

/-- How long was slept altogether, in nanoseconds. -/
def Progress.slept (w : Progress) : Nat := (w.waits.map (·.nanoseconds)).sum

/-- What is slept before a poll fits between the start and that poll. -/
theorem slept_before_le (k : Nat) :
    start + (c.before policy start k).slept ≤ c.begins policy start k := by
  induction k with
  | zero => simp [before, Progress.slept, begins]
  | succ k ih =>
    simp only [before, Progress.slept, List.range_succ, List.map_append, List.map_cons,
      List.map_nil, List.sum_append, List.sum_singleton, begins] at ih ⊢
    omega

/-- As long as nothing ends the polling, each wait fits into the time that is left, and so all of
them fit into the budget. -/
theorem slept_le_of_reaches {deadline : Nat} (hdeadline : policy.deadline? start = some deadline)
    (h : c.Reaches done policy start k) :
    (c.before policy start k).slept ≤ policy.timeout.nanoseconds := by
  obtain ⟨hbudget, _⟩ := RetryPolicy.deadline?_eq_some_iff.mp hdeadline
  induction k with
  | zero => exact Nat.zero_le _
  | succ k ih =>
    have hk := ih fun j hj => h j (Nat.lt_succ_of_lt hj)
    have hbegins : start + (c.before policy start k).slept ≤ _ := slept_before_le k
    obtain ⟨_, _, _, _, hlast⟩ := goes_on_of_not_ends (h k (Nat.lt_succ_self k))
    have hfits : ¬deadline - (c.begins policy start k + c.takes k) <
        (c.wait policy k).nanoseconds := by
      rw [hdeadline] at hlast
      exact fun hlate => hlast (decide_eq_true hlate)
    have hnext : (c.before policy start (k + 1)).slept =
        (c.before policy start k).slept + (c.wait policy k).nanoseconds := by
      simp [before, Progress.slept, List.range_succ]
    rw [hnext]
    omega

/-- What a course and a policy say about the polling that follows them. -/
structure IsScheduled (c : Course) (done : Status → Bool) (policy : RetryPolicy) (start : Nat) :
    Prop where
  /-- Each wait is the one that the server asks for, or else the delay that is planned. -/
  wait : ∀ k, (c.wait policy k).nanoseconds =
    ((c.asked k).map (·.nanoseconds)).getD (plannedDelay policy k)
  /-- The first poll that ends the polling says how it ends, and nothing is done after it. -/
  ends : ∀ k r, c.Reaches done policy start k → c.Ends done policy start k r →
    ∀ polls, k < polls → (c.pollable.poll done policy polls).run { clock := start } =
      (r.map some, c.stopped policy start k)
  /-- As long as no poll ends the polling, one follows another. -/
  goesOn : ∀ polls, c.Reaches done policy start polls →
    (c.pollable.poll done policy polls).run { clock := start } =
      (.ok none, c.before policy start polls)
  /-- A state that is returned is the one that was found last. -/
  found : ∀ k status, c.Ends done policy start k (.ok status) →
    (c.stopped policy start k).status = status
  /-- A budget past the range of clocks never runs out: only updates can fail. -/
  unbounded : RetryPolicy.clockEnd ≤ start + policy.timeout.nanoseconds →
    ∀ polls e w, (c.pollable.poll done policy polls).run { clock := start } = (.error e, w) →
      ∃ k, c.update k = .error e
  /-- All that is slept fits into the budget. A budget may end past the range of clocks, but no
  clock gets there. -/
  slept : ∀ polls r w, (c.pollable.poll done policy polls).run { clock := start } = (r, w) →
    start + policy.timeout.nanoseconds < RetryPolicy.clockEnd ∨ w.clock ≤ RetryPolicy.clockEnd →
    w.slept ≤ policy.timeout.nanoseconds

/-- All that is slept fits into the budget. -/
theorem slept_le (hbudget : start + policy.timeout.nanoseconds < RetryPolicy.clockEnd ∨
      c.begins policy start k ≤ RetryPolicy.clockEnd) (h : c.Reaches done policy start k) :
    (c.before policy start k).slept ≤ policy.timeout.nanoseconds := by
  cases hdeadline : policy.deadline? start with
  | some deadline => exact slept_le_of_reaches hdeadline h
  | none =>
    -- without a deadline it is the range of the clock that bounds the waits
    have hend := RetryPolicy.deadline?_eq_none_iff.mp hdeadline
    have hbegins : start + (c.before policy start k).slept ≤ _ := slept_before_le k
    omega

/-- Following a course ends with the first poll that ends it. -/
theorem run_pollable_of_ends {r : Except Error Status} (hreaches : c.Reaches done policy start k)
    (hends : c.Ends done policy start k r) {polls : Nat} (hpolls : k < polls) :
    (c.pollable.poll done policy polls).run { clock := start } =
      (r.map some, c.stopped policy start k) :=
  run_poll_of_ends (c.isFollowed_pollable policy start) rfl hreaches hends hpolls

/-- As long as no poll ends it, a course is followed further. -/
theorem run_pollable_of_reaches {polls : Nat} (h : c.Reaches done policy start polls) :
    (c.pollable.poll done policy polls).run { clock := start } =
      (.ok none, c.before policy start polls) :=
  run_poll_of_reaches (c.isFollowed_pollable policy start) rfl h 0

/-- Polling follows the schedule of its course and policy. -/
theorem poll_follows_schedule (c : Course) (done : Status → Bool) (policy : RetryPolicy)
    (start : Nat) : c.IsScheduled done policy start where
  wait k := by
    unfold Course.wait
    cases c.asked k with
    | none => exact nanoseconds_delay policy k
    | some asked => rfl
  ends k r hreaches hends polls hpolls := run_pollable_of_ends hreaches hends hpolls
  goesOn polls h := run_pollable_of_reaches h
  found k status hends := by
    cases hends with
    | found _ asked hupdate _ => simp [stopped, hupdate]
  unbounded hend polls e w hrun := by
    rcases ends_or_reaches c done policy start polls with ⟨k, hk, r, hreaches, hends⟩ | hreaches
    · rw [run_pollable_of_ends hreaches hends hk] at hrun
      cases hends with
      | failed e' hupdate =>
        cases hrun
        exact ⟨k, hupdate⟩
      | found => cases hrun
      | timedOut _ _ _ _ hbudget _ => exact absurd hbudget (Nat.not_lt.mpr hend)
    · rw [run_pollable_of_reaches hreaches] at hrun
      cases hrun
  slept polls r w hrun hbudget := by
    rcases ends_or_reaches c done policy start polls with ⟨k, hk, r', hreaches, hends⟩ | hreaches
    · rw [run_pollable_of_ends hreaches hends hk] at hrun
      obtain ⟨_, rfl⟩ := Prod.mk.inj hrun
      refine slept_le (hbudget.imp_right fun hclock => ?_) hreaches
      exact Nat.le_trans (Nat.le_add_right _ _) hclock
    · rw [run_pollable_of_reaches hreaches] at hrun
      obtain ⟨_, rfl⟩ := Prod.mk.inj hrun
      exact slept_le hbudget hreaches

end Course

end AcmeClient
