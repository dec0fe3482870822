import AcmeClient.Unicode.Runs

/-!
# The runs of a table

What a table's text adds to the runs read before does not depend on them. The text can therefore be
tested one run at a time, or one run with the next, without the table. The run that is found for a
character is the one that holds it.
-/

namespace AcmeClient.Unicode.Runs

section Reading

variable (front : Runs) (r : Reading)

/-- A reading with more runs in front. -/
def Reading.behind : Reading := { r with runs := front ++ r.runs }

/-- Ending an item leaves the runs in front alone. -/
theorem Reading.close_behind : (r.behind front).close = r.close.behind front := by
  obtain ⟨runs, start, kind, numbers, number⟩ := r
  cases kind with
  | none => rfl
  | some k => simp [Reading.close, Reading.behind]

/-- Reading a character leaves the runs in front alone. -/
theorem Reading.step_behind (c : Char) : (r.behind front).step c = (r.step c).behind front := by
  unfold Reading.step
  rw [Reading.close_behind]
  repeat' split
  all_goals rfl

/-- Reading a text leaves the runs in front alone. -/
theorem Reading.foldl_step_behind (cs : List Char) :
    cs.foldl Reading.step (r.behind front) = (cs.foldl Reading.step r).behind front := by
  induction cs generalizing r with
  | nil => rfl
  | cons c cs ih => rw [List.foldl_cons, Reading.step_behind, ih, List.foldl_cons]

end Reading

/-- Whether all runs that a text adds to a reading pass a test. Runs that have passed it are not
kept. -/
def Reading.addsOnly (p : Run → Bool) : Reading → List Char → Bool
  | r, [] => r.close.runs.all p
  | r, c :: cs =>
    let next := r.step c
    next.runs.all p && addsOnly p { next with runs := #[] } cs

variable {p : Run → Bool}

/-- The runs that a text adds pass the test. -/
theorem Reading.all_of_addsOnly {r : Reading} {cs : List Char} (h : r.addsOnly p cs = true) :
    (cs.foldl Reading.step r).close.runs.all p = true := by
  induction cs generalizing r with
  | nil => exact h
  | cons c cs ih =>
    rw [Reading.addsOnly, Bool.and_eq_true] at h
    have hnext : r.step c = Reading.behind (r.step c).runs { r.step c with runs := #[] } := by
      simp [Reading.behind]
    rw [List.foldl_cons, hnext, Reading.foldl_step_behind, Reading.close_behind, Reading.behind,
      Array.all_append, h.1, ih h.2]
    rfl

/-- The runs of a table pass a test if its text adds only such runs. -/
theorem forall_ofText {text : String}
    (h : ∃ cs, text = String.ofList cs ∧ Reading.addsOnly p {} cs = true) :
    ∀ r ∈ ofText text, p r = true := by
  obtain ⟨cs, rfl, h⟩ := h
  rw [ofText, String.toList_ofList]
  exact Array.all_eq_true_iff_forall_mem.mp (Reading.all_of_addsOnly h)

section Following

variable {q : Run → Option Run → Bool} {l : List Run} {t : Runs}

/-- Whether each run of a list passes a test with the run behind it, if there is one. -/
def passesFollowed (q : Run → Option Run → Bool) : List Run → Bool
  | [] => true
  | r :: rest => q r rest.head? && passesFollowed q rest

/-- A run passes the test with the run behind it. -/
theorem of_passesFollowed (h : passesFollowed q l = true) {k : Nat} {r : Run}
    (hr : l[k]? = some r) : q r l[k + 1]? = true := by
  induction l generalizing k with
  | nil => cases hr
  | cons first rest ih =>
    rw [passesFollowed, Bool.and_eq_true] at h
    cases k with
    | zero =>
      obtain rfl := Option.some.inj hr
      rw [List.getElem?_cons_succ, ← List.head?_eq_getElem?]
      exact h.1
    | succ k =>
      rw [List.getElem?_cons_succ] at hr ⊢
      exact ih h.2 hr

/-- Whether all runs of a reading and those that a text adds to it pass a test with the run behind
them. Only the last run is kept. -/
def Reading.addsFollowed (q : Run → Option Run → Bool) : Reading → List Char → Bool
  | r, [] => passesFollowed q r.close.runs.toList
  | r, c :: cs =>
    let next := r.step c
    match next.runs.toList with
    | [front, last] => q front (some last) && addsFollowed q { next with runs := #[last] } cs
    | _ => addsFollowed q next cs

/-- A reading begins with the runs that it has already. -/
theorem Reading.exists_foldl_step_close (r : Reading) (cs : List Char) :
    ∃ more, (cs.foldl Reading.step r).close.runs = r.runs ++ more := by
  have hr : r = Reading.behind r.runs { r with runs := #[] } := by simp [Reading.behind]
  refine ⟨(cs.foldl Reading.step { r with runs := #[] }).close.runs, ?_⟩
  have hfold := Reading.foldl_step_behind r.runs { r with runs := #[] } cs
  rw [← hr] at hfold
  rw [hfold, Reading.close_behind]
  rfl

/-- The runs that a text adds pass the test with those behind them. -/
theorem Reading.passesFollowed_of_addsFollowed {r : Reading} {cs : List Char}
    (h : r.addsFollowed q cs = true) :
    passesFollowed q (cs.foldl Reading.step r).close.runs.toList = true := by
  induction cs generalizing r with
  | nil => exact h
  | cons c cs ih =>
    unfold Reading.addsFollowed at h
    dsimp only at h
    rw [List.foldl_cons]
    split at h
    · rename_i front last hruns
      rw [Bool.and_eq_true] at h
      have hruns : (r.step c).runs = #[front] ++ #[last] := by
        rw [← Array.toList_inj, hruns, Array.toList_append]
        rfl
      have hnext : r.step c = Reading.behind #[front] { r.step c with runs := #[last] } := by
        rw [Reading.behind, ← hruns]
      have hrest := ih h.2
      obtain ⟨more, hmore⟩ :=
        Reading.exists_foldl_step_close { r.step c with runs := #[last] } cs
      rw [hnext, Reading.foldl_step_behind, Reading.close_behind]
      dsimp only [Reading.behind]
      rw [hmore, Array.toList_append] at hrest ⊢
      rw [Array.toList_append]
      exact Bool.and_eq_true_iff.mpr ⟨h.1, hrest⟩
    · exact ih h

/-- A run that is found between two positions holds the character, if the first run there begins at
or before it and the run behind the last one begins after it. -/
theorem exists_of_findBetween {c lo hi : Nat} {r : Run} (hlt : lo < hi)
    (hlo : ∀ f ∈ t[lo]?, f.start ≤ c) (hhi : ∀ f ∈ t[hi]?, c < f.start)
    (h : findBetween t c lo hi = some r) :
    ∃ k, t[k]? = some r ∧ r.start ≤ c ∧ ∀ f ∈ t[k + 1]?, c < f.start := by
  fun_induction findBetween t c lo hi with
  | case1 lo hi hmore mid m hm hle ih =>
    exact ih (by omega) (fun f hf => by rwa [Option.some.inj (hf.symm.trans hm)]) hhi h
  | case2 lo hi hmore mid m hm hle ih =>
    refine ih (by omega) hlo (fun f hf => ?_) h
    rw [Option.some.inj (hf.symm.trans hm)]
    exact Nat.lt_of_not_le hle
  | case3 lo hi hmore mid hm => cases h
  | case4 lo hi hmore =>
    obtain rfl : hi = lo + 1 := by omega
    exact ⟨lo, h, hlo r h, hhi⟩

/-- The run that holds a character passes a test with the run behind it if the table's text adds
only such runs and the first one begins at zero. -/
theorem exists_of_find?_ofText {text : String}
    (h : ∃ cs, text = String.ofList cs ∧
      ((cs.take 3).foldl Reading.step {}).runs.toList.map (·.start) = [0] ∧
      Reading.addsFollowed q {} cs = true)
    {c : Char} {r : Run} (hr : (ofText text).find? c = some r) :
    ∃ next, q r next = true ∧ r.start ≤ c.toNat ∧ ∀ f ∈ next, c.toNat < f.start := by
  obtain ⟨cs, rfl, hfirst, hadds⟩ := h
  -- the table begins with the run that the first item of its text stands for
  obtain ⟨more, hmore⟩ :=
    Reading.exists_foldl_step_close ((cs.take 3).foldl Reading.step {}) (cs.drop 3)
  rw [← List.foldl_append, List.take_append_drop] at hmore
  obtain ⟨first, hruns, hzero⟩ := List.map_eq_singleton_iff.mp hfirst
  have htable : ofText (String.ofList cs) = #[first] ++ more := by
    rw [ofText, String.toList_ofList, hmore, ← Array.toList_inj, Array.toList_append, hruns,
      Array.toList_append]
  have hsize : 0 < (ofText (String.ofList cs)).size := by
    rw [htable, Array.size_append]
    exact Nat.lt_add_right _ Nat.one_pos
  have hstart : ∀ f ∈ (ofText (String.ofList cs))[0]?, f.start ≤ c.toNat := by
    intro f hf
    rw [htable, ← Array.getElem?_toList, Array.toList_append] at hf
    obtain rfl : first = f := Option.some.inj hf
    rw [hzero]
    exact Nat.zero_le _
  obtain ⟨k, hk, hle, hnext⟩ := exists_of_findBetween hsize hstart (by simp) hr
  refine ⟨_, ?_, hle, hnext⟩
  have hpasses : passesFollowed q (ofText (String.ofList cs)).toList = true := by
    rw [ofText, String.toList_ofList]
    exact Reading.passesFollowed_of_addsFollowed hadds
  rw [← Array.getElem?_toList] at hk ⊢
  exact of_passesFollowed hpasses hk

end Following

end AcmeClient.Unicode.Runs
