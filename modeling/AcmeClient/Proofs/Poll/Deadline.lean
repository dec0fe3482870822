import AcmeClient.Proofs.Poll.Course

/-!
# Polling and its deadline

Polling that finds nothing is to end at its deadline. The poller compares the next wait with the
time that is left, and once the deadline has passed no time is left: any wait at all then ends
the polling, but the wait of no time goes on. So it ends in time unless a poll during which the
deadline passes is followed by no wait.
-/

namespace AcmeClient

/-- A deadline does not lie before the start. -/
theorem RetryPolicy.le_of_deadline?_eq_some {policy : RetryPolicy} {start deadline : Nat}
    (h : policy.deadline? start = some deadline) : start ≤ deadline := by
  unfold deadline? at h
  dsimp only at h
  split at h
  · obtain rfl := Option.some.inj h
    exact Nat.le_add_right _ _
  · cases h

namespace Course

variable (c : Course) (done : Status → Bool) (policy : RetryPolicy) (start deadline : Nat)

/-- Whether all polls find something, but never what is waited for. -/
def IsFruitless : Prop := ∀ k, (c.update k).isOk ∧ done (c.status k) = false

/-- Whether polling ends by giving up, and no poll is started past the deadline. -/
def EndsInTime : Prop :=
  ∃ n, ∀ polls, n ≤ polls → ∃ status w,
    (c.pollable.poll done policy polls).run { clock := start } =
      (.error (.timeout c.location status), w) ∧ ∀ t ∈ w.starts, t ≤ deadline

variable {c done policy start deadline} {k : Nat}

/-- A poll is the last one if the time that is left is less than the wait. -/
theorem isLast_iff : c.IsLast policy start (some deadline) k ↔
    deadline - (c.begins policy start k + c.takes k) < (c.wait policy k).nanoseconds :=
  decide_eq_true_iff

/-- Later polls begin later. -/
theorem begins_le_begins {j k : Nat} (h : j ≤ k) :
    c.begins policy start j ≤ c.begins policy start k := by
  induction h with
  | refl => exact Nat.le_refl _
  | step _ ih =>
    rw [begins]
    omega

/-- A poll that is not the last one is followed by one before the deadline, unless the deadline
has passed and there is no wait. -/
theorem begins_succ_le (h : ¬c.IsLast policy start (some deadline) k)
    (hwait : deadline < c.begins policy start k + c.takes k →
      (c.wait policy k).nanoseconds ≠ 0) : c.begins policy start (k + 1) ≤ deadline := by
  rw [isLast_iff] at h
  rw [begins]
  by_cases hlate : deadline < c.begins policy start k + c.takes k
  · have hpos := hwait hlate
    omega
  · omega

/-- If every poll takes some time, one of them is the last, and it begins before the deadline. The
number bounds the polls that fit into the time that is left. -/
theorem exists_isLast {ε : Nat} (htakes : ∀ k, ε ≤ c.takes k)
    (hwait : ∀ k, c.begins policy start k ≤ deadline →
      deadline < c.begins policy start k + c.takes k → (c.wait policy k).nanoseconds ≠ 0)
    (fit : Nat) (hk : c.begins policy start k ≤ deadline)
    (hfit : deadline < c.begins policy start k + fit * ε) :
    ∃ n, c.begins policy start n ≤ deadline ∧ c.IsLast policy start (some deadline) n ∧
      ∀ j, k ≤ j → j < n → ¬c.IsLast policy start (some deadline) j := by
  induction fit generalizing k with
  | zero => omega
  | succ fit ih =>
    by_cases hlast : c.IsLast policy start (some deadline) k
    · exact ⟨k, hk, hlast, fun j hkj hjk => by omega⟩
    · have hnext := begins_succ_le hlast (hwait k hk)
      have hlater : c.begins policy start k + ε ≤ c.begins policy start (k + 1) := by
        have := htakes k
        rw [begins]
        omega
      have hfit' : deadline < c.begins policy start (k + 1) + fit * ε := by
        rw [Nat.succ_mul] at hfit
        omega
      obtain ⟨n, hn, hlastn, hbefore⟩ := ih hnext hfit'
      refine ⟨n, hn, hlastn, fun j hkj hjn => ?_⟩
      rcases Nat.eq_or_lt_of_le hkj with rfl | hlt
      · exact hlast
      · exact hbefore j hlt hjn

/-- Polling ends with the last poll. -/
theorem endsInTime_of_isLast {n : Nat} (hdeadline : policy.deadline? start = some deadline)
    (hc : c.IsFruitless done) (hn : c.begins policy start n ≤ deadline)
    (hlast : c.IsLast policy start (some deadline) n)
    (hbefore : ∀ j < n, ¬c.IsLast policy start (some deadline) j) :
    c.EndsInTime done policy start deadline := by
  refine ⟨n + 1, fun polls hpolls => ?_⟩
  obtain ⟨more, rfl⟩ := Nat.exists_eq_add_of_le hpolls
  refine ⟨c.status n, c.after policy start n, ?_, ?_⟩
  · have hmany := run_pollFrom_add (n := n)
      (fun k hk => ⟨(hc k).1, (hc k).2, hbefore k hk⟩) (more + 1)
    rw [run_poll, hdeadline, Nat.add_right_comm, Nat.add_assoc, hmany,
      run_pollFrom_succ (hc n).1, (hc n).2, if_pos hlast]
    rfl
  · intro t ht
    obtain ⟨j, hj, rfl⟩ := List.mem_map.mp ht
    exact Nat.le_trans (begins_le_begins (Nat.le_of_lt_succ (List.mem_range.mp hj))) hn

/-- If the deadline passes during a poll and there is no wait after it, the next poll is started. -/
theorem mem_starts_of_wait_eq_zero (hdeadline : policy.deadline? start = some deadline)
    (hc : c.IsFruitless done) (hk : c.begins policy start k ≤ deadline)
    (hzero : (c.wait policy k).nanoseconds = 0) (more : Nat) :
    c.begins policy start (k + 1) ∈
      ((c.pollable.poll done policy (k + 1 + (more + 1))).run { clock := start }).2.starts := by
  have hbefore : ∀ j < k + 1, ¬c.IsLast policy start (some deadline) j := by
    intro j hj
    rw [isLast_iff]
    rcases Nat.eq_or_lt_of_le (Nat.le_of_lt_succ hj) with rfl | hlt
    · omega
    · have hnext : c.begins policy start (j + 1) ≤ c.begins policy start k := begins_le_begins hlt
      rw [begins] at hnext
      omega
  have hmany := run_pollFrom_add (n := k + 1)
    (fun j hj => ⟨(hc j).1, (hc j).2, hbefore j hj⟩) (more + 1)
  rw [run_poll, hdeadline, hmany, run_pollFrom_succ (hc (k + 1)).1, (hc (k + 1)).2]
  simp only [Bool.false_eq_true, ite_false]
  split
  · exact List.mem_map_of_mem (List.mem_range.mpr (Nat.lt_succ_self _))
  · refine starts_pollFrom more (delay policy (k + 1 + 1)) _ _ ?_
    exact List.mem_map_of_mem (List.mem_range.mpr (Nat.lt_succ_self _))

/-- Fruitless polling ends in time exactly if each poll during which the deadline passes is
followed by some wait. -/
theorem endsInTime_iff (hdeadline : policy.deadline? start = some deadline)
    (hc : c.IsFruitless done) {ε : Nat} (hε : 0 < ε) (htakes : ∀ k, ε ≤ c.takes k) :
    c.EndsInTime done policy start deadline ↔
      ∀ k, c.begins policy start k ≤ deadline →
        deadline < c.begins policy start k + c.takes k → (c.wait policy k).nanoseconds ≠ 0 := by
  constructor
  · rintro ⟨n, h⟩ k hk hlate hzero
    obtain ⟨_, w, hrun, hstarts⟩ := h (k + 1 + (n + 1)) (by omega)
    have hmem := mem_starts_of_wait_eq_zero hdeadline hc hk hzero n
    rw [hrun] at hmem
    have hnext := hstarts _ hmem
    rw [begins] at hnext
    omega
  · intro hwait
    have hfit : deadline < c.begins policy start 0 + (deadline + 1) * ε := by
      have := Nat.le_mul_of_pos_right (deadline + 1) hε
      omega
    obtain ⟨n, hn, hlast, hbefore⟩ := exists_isLast htakes hwait (deadline + 1)
      (RetryPolicy.le_of_deadline?_eq_some hdeadline) hfit
    exact endsInTime_of_isLast hdeadline hc hn hlast fun j hj => hbefore j (Nat.zero_le j) hj

/-- The case of an order in processing whose polls outlast the deadline. -/
theorem endsInTime_iff_processing :
    let c : Course := {
      update := fun _ => .ok (.processing, none), takes := fun _ => 2
      location := "http://localhost/order" }
    let policy := RetryPolicy.ofTimeout (.ofNanoseconds 1)
    policy.deadline? 0 = some 1 ∧ c.IsFruitless (·.isFinal) ∧ 0 < 2 ∧ (∀ k, 2 ≤ c.takes k) ∧
      (c.EndsInTime (·.isFinal) policy 0 1 ↔
        ∀ k, c.begins policy 0 k ≤ 1 → 1 < c.begins policy 0 k + c.takes k →
          (c.wait policy k).nanoseconds ≠ 0) :=
  ⟨by decide, fun _ => ⟨rfl, rfl⟩, by decide, fun _ => Nat.le_refl 2,
    endsInTime_iff (by decide) (fun _ => ⟨rfl, rfl⟩) (by decide) fun _ => Nat.le_refl 2⟩

/-- If the server asks for no wait each time, polling never ends and goes on past the deadline. -/
theorem never_ends_without_wait :
    let c : Course := {
      update := fun _ => .ok (.processing, some .zero), takes := fun _ => 2
      location := "http://localhost/order" }
    let policy := RetryPolicy.ofTimeout (.ofNanoseconds 1)
    policy.deadline? 0 = some 1 ∧ c.IsFruitless (·.isFinal) ∧ (∀ k, 2 ≤ c.takes k) ∧
      ¬c.EndsInTime (·.isFinal) policy 0 1 ∧
      ∀ polls, ((c.pollable.poll (·.isFinal) policy polls).run { clock := 0 }).1 = .ok none ∧
        (2 ≤ polls → 2 ∈
          ((c.pollable.poll (·.isFinal) policy polls).run { clock := 0 }).2.starts) := by
  intro c policy
  have hdeadline : policy.deadline? 0 = some 1 := by decide
  have hc : c.IsFruitless (·.isFinal) := fun _ => ⟨rfl, rfl⟩
  have hbefore : ∀ k, ¬c.IsLast policy 0 (some 1) k := by
    intro k
    rw [isLast_iff]
    exact Nat.not_lt_zero _
  have hrun : ∀ polls, ((c.pollable.poll (·.isFinal) policy polls).run { clock := 0 }).1 =
      .ok none := by
    intro polls
    have hmany := run_pollFrom_add (n := polls)
      (fun k _ => ⟨(hc k).1, (hc k).2, hbefore k⟩) 0
    rw [run_poll, hdeadline, ← Nat.add_zero polls, hmany]
    rfl
  refine ⟨hdeadline, hc, fun _ => Nat.le_refl 2, ?_, fun polls => ⟨hrun polls, fun hpolls => ?_⟩⟩
  · rintro ⟨n, h⟩
    obtain ⟨_, w, hended, _⟩ := h n (Nat.le_refl n)
    have hnone := hrun n
    rw [hended] at hnone
    cases hnone
  · obtain ⟨more, rfl⟩ := Nat.exists_eq_add_of_le hpolls
    have hmem := mem_starts_of_wait_eq_zero (k := 0) hdeadline hc (Nat.zero_le 1) rfl more
    rwa [Nat.zero_add, Nat.add_comm more 1, ← Nat.add_assoc] at hmem

end Course

end AcmeClient
