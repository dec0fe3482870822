import AcmeClient.Attempt
import AcmeClient.Poll.Policy
import AcmeClient.Status

/-!
# Polling

A resource is polled until its state is one that is waited for. Between two polls the poller
sleeps as long as the server asks, else as long as its policy says; it gives up as soon as it
would sleep past its deadline.
-/

namespace AcmeClient

/-- A state in which one resource can be polled: how it is updated, which yields the wait that
the server asks for, and what time it is. -/
structure Pollable (σ : Type) where
  /-- One poll. -/
  update : Attempt σ (Option Duration)
  /-- The state found by the last poll. -/
  status : σ → Status
  /-- Where the resource is. -/
  location : σ → String
  /-- The time in nanoseconds. -/
  clock : σ → Nat
  /-- What is left after some time. -/
  sleep : Duration → σ → σ

namespace Pollable

/-- Whether a wait lasts past a deadline. -/
def isTooLong (deadline : Option Nat) (now : Nat) (wait : Duration) : Bool :=
  deadline.any fun deadline => deadline - now < wait.nanoseconds

/-- Polls up to some times, with a delay for the next wait; there is no value if the state that is
waited for does not come in that many polls. -/
def pollFrom (p : Pollable σ) (done : Status → Bool) (policy : RetryPolicy) (deadline : Option Nat) :
    Nat → Duration → Attempt σ (Option Status)
  | 0, _ => return none
  | polls + 1, delay => do
    let wait := (← p.update).getD delay
    let s ← get
    if done (p.status s) then return some (p.status s)
    if isTooLong deadline (p.clock s) wait then throw (.timeout (p.location s) (p.status s))
    set (p.sleep wait s)
    pollFrom p done policy deadline polls (policy.nextDelay delay)

/-- Polls up to some times, starting now. -/
def poll (p : Pollable σ) (done : Status → Bool) (policy : RetryPolicy) (polls : Nat) :
    Attempt σ (Option Status) := do
  let s ← get
  pollFrom p done policy (policy.deadline? (p.clock s)) polls policy.initialDelay

end Pollable

end AcmeClient
