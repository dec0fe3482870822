import AcmeClient.Proofs.Poll.Effects

/-!
# Courses of polls

A course says in advance how each poll of a resource goes: what it finds and how long it takes.
Following a course, the poller polls and sleeps at times that can be computed from the course and
the policy, until a poll ends it.
-/

namespace AcmeClient

open Attempt

/-- How the polls of a resource go. -/
structure Course where
  /-- What each poll finds, with the wait that the server asks for. -/
  update : Nat → Except Error (Status × Option Duration)
  /-- How long each poll takes, in nanoseconds. -/
  takes : Nat → Nat
  /-- Where the resource is. -/
  location : String

/-- How far a course has been followed. -/
structure Course.Progress where
  /-- The time in nanoseconds. -/
  clock : Nat
  /-- When the polls so far were started. -/
  starts : List Nat := []
  /-- How long was slept after each poll. -/
  waits : List Duration := []
  /-- What the last poll has found. -/
  status : Status := .unknown

namespace Course

/-- A course can be followed by polling. -/
def pollable (c : Course) : Pollable Progress where
  update := ⟨fun w =>
    let polled := { w with
      clock := w.clock + c.takes w.starts.length, starts := w.starts ++ [w.clock] }
    match c.update w.starts.length with
    | .ok (status, wait) => (.ok wait, { polled with status })
    | .error e => (.error e, polled)⟩
  status := (·.status)
  location _ := c.location
  clock := (·.clock)
  sleep d w := { w with clock := w.clock + d.nanoseconds, waits := w.waits ++ [d] }

/-- The delay that is due after each poll if the server asks for no wait. -/
def delay (policy : RetryPolicy) : Nat → Duration
  | 0 => policy.initialDelay
  | k + 1 => policy.nextDelay (delay policy k)

variable (c : Course) (policy : RetryPolicy) (start : Nat)

/-- What a poll finds. -/
def status (k : Nat) : Status :=
  match c.update k with
  | .ok (status, _) => status
  | .error _ => .unknown

/-- The wait that the server asks for after a poll. -/
def asked (k : Nat) : Option Duration :=
  match c.update k with
  | .ok (_, wait) => wait
  | .error _ => none

/-- The wait after a poll. -/
def wait (k : Nat) : Duration := (c.asked k).getD (delay policy k)

/-- When each poll begins. -/
def begins : Nat → Nat
  | 0 => start
  | k + 1 => begins k + c.takes k + (c.wait policy k).nanoseconds

/-- How far the course has been followed before a poll. -/
def before (k : Nat) : Progress where
  clock := c.begins policy start k
  starts := (List.range k).map (c.begins policy start)
  waits := (List.range k).map (c.wait policy)
  status := if k = 0 then .unknown else c.status (k - 1)

/-- How far the course has been followed after a poll. -/
def after (k : Nat) : Progress where
  clock := c.begins policy start k + c.takes k
  starts := (List.range (k + 1)).map (c.begins policy start)
  waits := (List.range k).map (c.wait policy)
  status := c.status k

/-- Whether the wait after a poll would last past a deadline. -/
abbrev IsLast (deadline : Option Nat) (k : Nat) : Prop :=
  Pollable.isTooLong deadline (c.begins policy start k + c.takes k) (c.wait policy k) = true

variable {c policy start} {done : Status → Bool} {deadline : Option Nat} {k : Nat}

/-- Sleeping after a poll leads to the next one. -/
theorem sleep_after :
    c.pollable.sleep (c.wait policy k) (c.after policy start k) =
      c.before policy start (k + 1) := by
  simp [pollable, after, before, begins, List.range_succ]

/-- A poll that finds something comes to its end. -/
theorem run_update (h : (c.update k).isOk) :
    c.pollable.update.run (c.before policy start k) =
      (.ok (c.asked k), c.after policy start k) := by
  cases hk : c.update k with
  | error e => simp [hk, Except.isOk, Except.toBool] at h
  | ok found => simp [pollable, before, after, asked, status, hk, List.range_succ]

/-- A poll that finds something ends the polling, or the next one is due. -/
theorem run_pollFrom_succ (h : (c.update k).isOk) (polls : Nat) :
    (c.pollable.pollFrom done policy deadline (polls + 1) (delay policy k)).run
        (c.before policy start k) =
      if done (c.status k) then (.ok (some (c.status k)), c.after policy start k)
      else if c.IsLast policy start deadline k then
        (.error (.timeout c.location (c.status k)), c.after policy start k)
      else (c.pollable.pollFrom done policy deadline polls (delay policy (k + 1))).run
        (c.before policy start (k + 1)) := by
  have hstatus : c.pollable.status (c.after policy start k) = c.status k := rfl
  have hwait : (c.asked k).getD (delay policy k) = c.wait policy k := rfl
  have hclock : c.pollable.clock (c.after policy start k) =
    c.begins policy start k + c.takes k := rfl
  rw [Pollable.pollFrom, run_bind, run_update h]
  dsimp only
  rw [run_bind, run_get]
  dsimp only
  rw [hstatus, hwait, hclock]
  by_cases hdone : done (c.status k) = true
  · rw [if_pos hdone, if_pos hdone, run_pure]
  · rw [if_neg hdone, if_neg hdone]
    by_cases hlast : c.IsLast policy start deadline k
    · rw [if_pos hlast, if_pos hlast]
      rfl
    · rw [if_neg hlast, if_neg hlast, run_bind, run_set, sleep_after]
      rfl

/-- As long as nothing ends the polling, one poll follows another. -/
theorem run_pollFrom_add {n : Nat} (h : ∀ k < n, (c.update k).isOk ∧ done (c.status k) = false ∧
      ¬c.IsLast policy start deadline k) (polls : Nat) :
    (c.pollable.pollFrom done policy deadline (n + polls) (delay policy 0)).run
        (c.before policy start 0) =
      (c.pollable.pollFrom done policy deadline polls (delay policy n)).run
        (c.before policy start n) := by
  induction n generalizing polls with
  | zero => rw [Nat.zero_add]
  | succ n ih =>
    obtain ⟨hok, hdone, hlast⟩ := h n (Nat.lt_succ_self n)
    have hbefore := ih (fun k hk => h k (Nat.lt_succ_of_lt hk)) (polls + 1)
    rw [Nat.add_right_comm, Nat.add_assoc, hbefore, run_pollFrom_succ hok, hdone, if_neg hlast]
    rfl

/-- Polling starts with the first poll. -/
theorem run_poll (polls : Nat) :
    (c.pollable.poll done policy polls).run { clock := start } =
      (c.pollable.pollFrom done policy (policy.deadline? start) polls (delay policy 0)).run
        (c.before policy start 0) := rfl

/-- Polls that were started are not forgotten. -/
theorem starts_pollFrom (polls : Nat) (d : Duration) :
    Keeps (fun w w' : Progress => ∀ t ∈ w.starts, t ∈ w'.starts)
      (c.pollable.pollFrom done policy deadline polls d) := by
  refine Pollable.keeps_pollFrom ⟨fun _ _ ht => ht, fun h h' t ht => h' t (h t ht)⟩ ?_
    (fun _ _ _ ht => ht) done policy deadline polls d
  intro w t ht
  have hmem : t ∈ w.starts ++ [w.clock] := List.mem_append_left _ ht
  simp only [pollable]
  cases c.update w.starts.length <;> exact hmem

end Course

end AcmeClient
