import AcmeClient.Poll.Basic
import AcmeClient.Proofs.Effects

/-!
# Effects of polling

Polling consists of updates and of sleep between them. What both of them do to the state, polling
does, however often it polls.
-/

namespace AcmeClient.Pollable

open Attempt

variable {R : σ → σ → Prop} {p : Pollable σ}

/-- Polling some times has the effect that updates and sleep have. -/
theorem keeps_pollFrom (hR : Effect R) (hupdate : Keeps R p.update)
    (hsleep : ∀ d s, R s (p.sleep d s)) (done : Status → Bool) (policy : RetryPolicy)
    (deadline : Option Nat) (polls : Nat) (delay : Duration) :
    Keeps R (p.pollFrom done policy deadline polls delay) := by
  induction polls generalizing delay with
  | zero => exact .pure hR none
  | succ polls ih =>
    unfold pollFrom
    refine .bind hR hupdate fun wait => ?_
    intro s
    rw [run_bind, run_get]
    dsimp only
    split
    · exact hR.refl s
    · split
      · exact hR.refl s
      · exact hR.trans (hsleep (wait.getD delay) s) (ih (policy.nextDelay delay) _)

end AcmeClient.Pollable
