import AcmeClient.Proofs.Poll.Schedule

/-!
# The greatest delay

A delay is cut down to the greatest one when it is computed from the one before, and so the first
delay is taken as it is. All waits that the server does not ask for are within the greatest delay,
and never become shorter, unless the first one of them is longer and is waited for.
-/

namespace AcmeClient

namespace RetryPolicy

/-- Whether a policy is built from one with a budget, its settings changed in any order. -/
inductive IsBuilt : RetryPolicy → Prop
  | ofTimeout (timeout : Duration) : IsBuilt (ofTimeout timeout)
  | withInitialDelay {policy : RetryPolicy} (delay : Duration) (h : IsBuilt policy) :
      IsBuilt (policy.withInitialDelay delay)
  | withBackoff {policy : RetryPolicy} (factor : UInt32) (h : IsBuilt policy) :
      IsBuilt (policy.withBackoff factor)
  | withMaxDelay {policy : RetryPolicy} (delay : Duration) (h : IsBuilt policy) :
      IsBuilt (policy.withMaxDelay delay)

variable {policy : RetryPolicy}

/-- No way of building a policy makes its factor zero. -/
theorem IsBuilt.backoff_pos (h : policy.IsBuilt) : 0 < policy.backoff.toNat := by
  induction h with
  | ofTimeout timeout => exact Nat.two_pos
  | withInitialDelay delay _ ih => exact ih
  | withBackoff factor _ _ =>
    rw [RetryPolicy.withBackoff]
    split
    · exact Nat.one_pos
    · rename_i hfactor
      exact Nat.pos_of_ne_zero fun hzero => hfactor (UInt32.toNat_inj.mp hzero)
  | withMaxDelay delay _ ih => exact ih

/-- Whether the first delay is within the greatest one. -/
def StartsCapped (policy : RetryPolicy) : Prop :=
  policy.initialDelay.nanoseconds ≤ policy.maxDelay.nanoseconds

end RetryPolicy

namespace Course

variable {c : Course} {done : Status → Bool} {policy : RetryPolicy} {start : Nat}

/-- Every delay but the first one is within the greatest delay. -/
theorem delay_le_maxDelay {k : Nat} (h : k ≠ 0 ∨ policy.StartsCapped) :
    (delay policy k).nanoseconds ≤ policy.maxDelay.nanoseconds := by
  rw [nanoseconds_delay, plannedDelay]
  split
  · rename_i hk
    exact h.resolve_left (not_not_intro hk)
  · exact Nat.min_le_left _ _

/-- A delay is not shorter than the one before, unless that is the first one and too long. -/
theorem delay_le_succ {k : Nat} (hbackoff : 0 < policy.backoff.toNat)
    (h : k ≠ 0 ∨ policy.StartsCapped) :
    (delay policy k).nanoseconds ≤ (delay policy (k + 1)).nanoseconds := by
  rw [delay, RetryPolicy.nanoseconds_nextDelay]
  exact Nat.le_min.mpr ⟨delay_le_maxDelay h, Nat.le_mul_of_pos_right _ hbackoff⟩

/-- Delays never become shorter, unless the first one is too long. -/
theorem delay_le_delay {j k : Nat} (hbackoff : 0 < policy.backoff.toNat)
    (h : j ≠ 0 ∨ policy.StartsCapped) (hjk : j ≤ k) :
    (delay policy j).nanoseconds ≤ (delay policy k).nanoseconds := by
  induction k, hjk using Nat.le_induction with
  | base => exact Nat.le_refl _
  | succ k hjk ih => exact ih.trans (delay_le_succ hbackoff (h.imp_left (by omega)))

/-- Whether those of some waits that the server has not asked for are within the greatest delay and
never become shorter, from the wait after some poll on. -/
structure AreCappedFrom (c : Course) (policy : RetryPolicy) (waits : List Duration) (first : Nat) :
    Prop where
  atMost : ∀ k d, first ≤ k → c.asked k = none → waits[k]? = some d →
    d.nanoseconds ≤ policy.maxDelay.nanoseconds
  grow : ∀ j k d e, first ≤ j → j ≤ k → c.asked j = none → c.asked k = none →
    waits[j]? = some d → waits[k]? = some e → d.nanoseconds ≤ e.nanoseconds

/-- What was waited for after each poll in a number of polls. -/
def waitsOf (c : Course) (done : Status → Bool) (policy : RetryPolicy) (start polls : Nat) :
    List Duration :=
  ((c.pollable.poll done policy polls).run { clock := start }).2.waits

/-- What was waited for are the waits after all polls before one that is reached. -/
theorem exists_waitsOf_eq (c : Course) (done : Status → Bool) (policy : RetryPolicy)
    (start polls : Nat) : ∃ n, c.Reaches done policy start n ∧
      c.waitsOf done policy start polls = (List.range n).map (c.wait policy) := by
  rcases ends_or_reaches c done policy start polls with ⟨n, hn, r, hreaches, hends⟩ | hreaches
  · exact ⟨n, hreaches, by rw [waitsOf, run_pollable_of_ends hreaches hends hn]; rfl⟩
  · exact ⟨polls, hreaches, by rw [waitsOf, run_pollable_of_reaches hreaches]; rfl⟩

/-- A wait that the server has not asked for is the delay that is due. -/
theorem eq_delay_of_getElem? {n k : Nat} {d : Duration} (hasked : c.asked k = none)
    (h : ((List.range n).map (c.wait policy))[k]? = some d) : k < n ∧ d = delay policy k := by
  rw [List.getElem?_map, Option.map_eq_some_iff] at h
  obtain ⟨i, hi, rfl⟩ := h
  obtain ⟨hk, rfl⟩ := List.getElem?_eq_some_iff.mp hi
  rw [List.length_range] at hk
  rw [List.getElem_range, wait, hasked]
  exact ⟨hk, rfl⟩

/-- Waits that are capped but for the first one are all capped if there are none, unless the server
has asked for the first one. -/
theorem AreCappedFrom.of_one {waits : List Duration} (h : c.AreCappedFrom policy waits 1)
    (hfirst : c.asked 0 = none → waits = []) : c.AreCappedFrom policy waits 0 := by
  have hpos {k : Nat} {d : Duration} (hasked : c.asked k = none) (hd : waits[k]? = some d) :
      1 ≤ k := by
    rcases k with _ | k
    · rw [hfirst hasked] at hd
      cases hd
    · exact Nat.succ_pos k
  constructor
  · intro k d _ hasked hd
    exact h.atMost k d (hpos hasked hd) hasked hd
  · intro j k d e _ hjk hasked hasked' hd he
    exact h.grow j k d e (hpos hasked hd) hjk hasked hasked' hd he

/-- The waits are capped from a poll on if that is not the first one, or the first delay is not too
long. -/
theorem areCappedFrom {first : Nat} (hbackoff : 0 < policy.backoff.toNat)
    (h : first ≠ 0 ∨ policy.StartsCapped) (polls : Nat) :
    c.AreCappedFrom policy (c.waitsOf done policy start polls) first := by
  obtain ⟨n, -, hwaits⟩ := exists_waitsOf_eq c done policy start polls
  rw [hwaits]
  constructor
  · intro k d hk hasked hd
    obtain ⟨-, rfl⟩ := eq_delay_of_getElem? hasked hd
    exact delay_le_maxDelay (h.imp_left (by omega))
  · intro j k d e hj hjk hasked hasked' hd he
    obtain ⟨-, rfl⟩ := eq_delay_of_getElem? hasked hd
    obtain ⟨-, rfl⟩ := eq_delay_of_getElem? hasked' he
    exact delay_le_delay hbackoff (h.imp_left (by omega)) hjk

/-- All waits that the server does not ask for are within the greatest delay and never become
shorter, exactly if the first delay is so whenever it is waited for; the later ones always are. -/
theorem areCapped_iff_startsCapped (hpolicy : policy.IsBuilt) (c : Course) (done : Status → Bool)
    (start : Nat) :
    ((∀ polls, c.AreCappedFrom policy (c.waitsOf done policy start polls) 0) ↔
      (c.Reaches done policy start 1 → c.asked 0 = none → policy.StartsCapped)) ∧
    ∀ polls, c.AreCappedFrom policy (c.waitsOf done policy start polls) 1 := by
  have hbackoff := hpolicy.backoff_pos
  refine ⟨⟨fun hcapped hreaches hasked => ?_, fun hfirst polls => ?_⟩,
    areCappedFrom hbackoff (.inl Nat.one_ne_zero)⟩
  · have hwaits : c.waitsOf done policy start 1 = [policy.initialDelay] := by
      rw [waitsOf, run_pollable_of_reaches hreaches]
      simp [before, wait, hasked, delay]
    exact (hcapped 1).atMost 0 _ (Nat.le_refl 0) hasked (by rw [hwaits]; rfl)
  · by_cases hstarts : policy.StartsCapped
    · exact areCappedFrom hbackoff (.inr hstarts) polls
    · -- the first delay is too long, but the server has asked for that wait, or none is waited for
      refine (areCappedFrom hbackoff (.inl Nat.one_ne_zero) polls).of_one fun hasked => ?_
      obtain ⟨n, hreaches, hwaits⟩ := exists_waitsOf_eq c done policy start polls
      rcases n with _ | n
      · exact hwaits
      · have hone : c.Reaches done policy start 1 :=
          fun j hj => hreaches j (hj.trans_le (Nat.succ_pos n))
        exact absurd (hfirst hone hasked) hstarts

/-- A first delay that is too long does no harm if the server asks for another first wait. -/
theorem areCapped_of_asked :
    let c : Course := {
      update := fun k => .ok (.processing, if k = 0 then some (.ofSeconds 2) else none)
      takes := fun _ => 0, location := "http://localhost/order" }
    let policy := RetryPolicy.standard.withMaxDelay (.ofNanoseconds 100000000)
    policy.IsBuilt ∧ ¬policy.StartsCapped ∧
      c.waitsOf (·.isFinal) policy 0 2 = [.ofSeconds 2, policy.maxDelay] ∧
      ∀ polls, c.AreCappedFrom policy (c.waitsOf (·.isFinal) policy 0 polls) 0 := by
  intro c policy
  have hpolicy : policy.IsBuilt := .withMaxDelay _ (.ofTimeout _)
  have hlong : ¬policy.StartsCapped := by
    rw [RetryPolicy.StartsCapped]
    decide
  refine ⟨hpolicy, hlong, by decide +kernel, ?_⟩
  exact (areCapped_iff_startsCapped hpolicy c (·.isFinal) 0).1.mpr fun _ hasked => nomatch hasked

/-- With the greatest delay below the usual first one, the first wait is longer than the greatest
delay, and the next one shorter than the first. -/
theorem not_areCapped_of_long_start :
    let c : Course := {
      update := fun _ => .ok (.processing, none), takes := fun _ => 0
      location := "http://localhost/order" }
    let policy := RetryPolicy.standard.withMaxDelay (.ofNanoseconds 100000000)
    policy.IsBuilt ∧ (∀ k, c.asked k = none) ∧
      c.waitsOf (·.isFinal) policy 0 2 = [.ofNanoseconds 500000000, policy.maxDelay] ∧
      ¬c.AreCappedFrom policy (c.waitsOf (·.isFinal) policy 0 2) 0 := by
  intro c policy
  have hwaits : c.waitsOf (·.isFinal) policy 0 2 =
      [.ofNanoseconds 500000000, policy.maxDelay] := by decide +kernel
  refine ⟨.withMaxDelay _ (.ofTimeout _), fun _ => rfl, hwaits, fun hcapped => ?_⟩
  have hmost := hcapped.atMost 0 _ (Nat.le_refl 0) rfl (by rw [hwaits]; rfl)
  exact absurd hmost (by decide)

end Course

end AcmeClient
