import AcmeClient.Proofs.Identifier.Rearrangement

/-!
# Lists without duplicates

Of the identifiers of a list that are the same, the first one is kept. Building such a list one
identifier after another comes to the same as removing the duplicates at the end.
-/

namespace AcmeClient.Identifier

/-- The identifiers of a list without those that are the same as an earlier one. -/
def firsts (l : List Identifier) : List Identifier := l.eraseDupsBy same

/-- The first identifier is kept, and those that are the same are removed after it. -/
theorem firsts_cons (i : Identifier) (l : List Identifier) :
    firsts (i :: l) = i :: firsts (l.filter fun j => !j.same i) := by
  simp [firsts, List.eraseDupsBy_cons]

/-- Being the same is symmetric. -/
theorem same_comm (i j : Identifier) : i.same j = j.same i := by
  rw [Bool.eq_iff_iff, same_iff, same_iff]
  exact eq_comm

/-- Removing what is the same as another identifier leaves the rest in the list. -/
theorem isIn_filter {i j : Identifier} (h : j.same i = false) (l : List Identifier) :
    i.isIn (l.filter fun k => !k.same j) = i.isIn l := by
  unfold isIn
  rw [List.any_filter]
  refine congrArg l.any (funext fun k => ?_)
  cases hk : k.same i with
  | false => exact Bool.and_false _
  | true =>
    have hkj : k.same j = false := by
      rw [← Bool.not_eq_true, same_iff] at h ⊢
      rw [(same_iff k i).mp hk]
      exact fun heq => h heq.symm
    rw [hkj]
    rfl

/-- One more identifier is added at the end unless it is there already. -/
theorem firsts_concat (l : List Identifier) (i : Identifier) :
    firsts (l ++ [i]) = if i.isIn l then firsts l else firsts l ++ [i] := by
  match l with
  | [] => rfl
  | j :: l =>
    have ih := firsts_concat (l.filter fun k => !k.same j) i
    rw [List.cons_append, firsts_cons, firsts_cons, List.filter_append]
    cases h : j.same i with
    | true =>
      have hi : i.same j = true := by rw [same_comm, h]
      simp [isIn, h, hi]
    | false =>
      have hi : i.same j = false := by rw [same_comm, h]
      rw [isIn_filter h] at ih
      have hin : i.isIn (j :: l) = i.isIn l := by simp [isIn, h]
      rw [hin, List.filter_singleton, hi]
      simp only [Bool.not_false, cond_true, ih]
      split <;> rfl
termination_by l.length
decreasing_by exact Nat.lt_succ_of_le (List.length_filter_le _ _)

/-- Removing duplicates keeps what is in the list. -/
theorem isIn_firsts (i : Identifier) (l : List Identifier) : i.isIn (firsts l) = i.isIn l := by
  match l with
  | [] => rfl
  | j :: l =>
    have ih := isIn_firsts i (l.filter fun k => !k.same j)
    have hcons : ∀ l, i.isIn (j :: l) = (j.same i || i.isIn l) := fun _ => rfl
    rw [firsts_cons, hcons, hcons, ih]
    cases h : j.same i with
    | true => rfl
    | false => rw [isIn_filter h]
termination_by l.length
decreasing_by exact Nat.lt_succ_of_le (List.length_filter_le _ _)

/-- What is left keeps its order. -/
theorem firsts_sublist (l : List Identifier) : (firsts l).Sublist l := by
  match l with
  | [] => exact List.Sublist.slnil
  | j :: l =>
    rw [firsts_cons]
    exact ((firsts_sublist _).trans List.filter_sublist).cons_cons j
termination_by l.length
decreasing_by exact Nat.lt_succ_of_le (List.length_filter_le _ _)

/-- No duplicates are left. -/
theorem distinct_firsts (l : List Identifier) : Distinct (firsts l) := by
  match l with
  | [] => exact List.Pairwise.nil
  | j :: l =>
    have ih := distinct_firsts (l.filter fun k => !k.same j)
    rw [firsts_cons]
    refine List.Pairwise.cons (fun i hi => ?_) ih
    have hmem := (firsts_sublist _).subset hi
    have hij : i.same j = false := by simpa using (List.mem_filter.mp hmem).2
    rw [same_comm, hij]
termination_by l.length
decreasing_by exact Nat.lt_succ_of_le (List.length_filter_le _ _)

end AcmeClient.Identifier
