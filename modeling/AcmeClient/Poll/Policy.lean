import AcmeClient.Time.Duration

/-!
# Retry policies

A policy bounds how long to wait for a resource and spaces the polls: each delay is the last one
times a factor, and at most a maximum.
-/

namespace AcmeClient

/-- How long and how often to poll. -/
structure RetryPolicy where
  /-- The time after which to give up. -/
  timeout : Duration
  /-- The delay after the first poll. -/
  initialDelay : Duration := .ofNanoseconds 500000000
  /-- The factor from one delay to the next. -/
  backoff : UInt32 := 2
  /-- What a delay may grow to. -/
  maxDelay : Duration := .ofSeconds 10
  deriving DecidableEq, Repr

namespace RetryPolicy

/-- The policy that gives up after some time. -/
def ofTimeout (timeout : Duration) : RetryPolicy := { timeout }

/-- The policy that gives up after a minute. -/
def standard : RetryPolicy := ofTimeout (.ofSeconds 60)

/-- The policy with another first delay. -/
def withInitialDelay (p : RetryPolicy) (delay : Duration) : RetryPolicy :=
  { p with initialDelay := delay }

/-- The policy with another factor, which is at least one. -/
def withBackoff (p : RetryPolicy) (factor : UInt32) : RetryPolicy :=
  { p with backoff := if factor = 0 then 1 else factor }

/-- The policy with another greatest delay. -/
def withMaxDelay (p : RetryPolicy) (delay : Duration) : RetryPolicy := { p with maxDelay := delay }

/-- The delay after a delay. -/
def nextDelay (p : RetryPolicy) (delay : Duration) : Duration :=
  (delay.times p.backoff.toNat).shorter p.maxDelay

/-- The end of the range of clocks, in nanoseconds. -/
def clockEnd : Nat := Nat.pow 2 63 * Duration.perSecond

/-- When to give up, starting at a time; never if that is past the range of clocks. -/
def deadline? (p : RetryPolicy) (start : Nat) : Option Nat :=
  let deadline := start + p.timeout.nanoseconds
  if deadline < clockEnd then some deadline else none

end RetryPolicy

end AcmeClient
