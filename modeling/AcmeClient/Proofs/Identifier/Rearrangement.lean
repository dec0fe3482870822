import AcmeClient.Identifier.Equality
import Mathlib.Data.List.Perm.Basic

/-!
# Lists with the same identifiers

Two lists of identifiers rearrange each other if they have the same identifiers, each as often, in
any order and spelling. Against a list without repetition, as many identifiers and no other ones
make a rearrangement exactly if none of them is repeated.
-/

namespace AcmeClient.Identifier

/-- What identifiers share if they are the same. -/
def key (i : Identifier) : String × String := (i.type, i.normalValue)

/-- Identifiers are the same if they share type and normalized value. -/
theorem same_iff (i j : Identifier) : i.same j = true ↔ i.key = j.key := by
  simp [same, key]

/-- Whether no identifier of a list is the same as another one. -/
def Distinct (l : List Identifier) : Prop := l.Pairwise fun i j => i.same j = false

/-- Whether a list has the same identifiers as another one, each as often, in any order and
spelling. -/
def Rearranges (got had : List Identifier) : Prop :=
  ∃ l, l.Perm had ∧ List.Forall₂ (fun i j => i.same j = true) got l

/-- Whether a list has as many identifiers as another one and no other ones, but some of them are
repeated in place of others. -/
def Repeats (got had : List Identifier) : Prop :=
  got.length = had.length ∧ (∀ i ∈ got, i.isIn had = true) ∧ ¬Distinct got

variable {got had : List Identifier}

/-- A list is without repetition if its keys are. -/
theorem distinct_iff_nodup (l : List Identifier) : Distinct l ↔ (l.map key).Nodup := by
  unfold Distinct List.Nodup
  rw [List.pairwise_map]
  refine iff_of_eq (congrArg (List.Pairwise · l) ?_)
  funext i j
  rw [← Bool.not_eq_true, same_iff]

/-- A list has an identifier if it has its key. -/
theorem isIn_iff (i : Identifier) (l : List Identifier) : i.isIn l = true ↔ i.key ∈ l.map key := by
  simp only [isIn, List.any_eq_true, same_iff, List.mem_map]

/-- A list has no other identifiers if it has no other keys. -/
theorem forall_isIn_iff_subset : (∀ i ∈ got, i.isIn had = true) ↔ got.map key ⊆ had.map key := by
  simp only [isIn_iff, List.subset_def, List.forall_mem_map]

/-- Lists rearrange each other if their keys do. -/
theorem rearranges_iff_perm : Rearranges got had ↔ (got.map key).Perm (had.map key) := by
  have hkeys : ∀ l, List.Forall₂ (fun i j => i.same j = true) got l ↔ got.map key = l.map key := by
    intro l
    simp only [same_iff, ← List.forall₂_eq_eq_eq, List.forall₂_map_left_iff,
      List.forall₂_map_right_iff]
  have hperm := congrFun (congrFun (List.eq_map_comp_perm key) (got.map key)) had
  rw [← hperm]
  refine exists_congr fun l => ?_
  rw [hkeys, and_comm]

/-- A rearrangement has as many identifiers. -/
theorem Rearranges.length_eq (h : Rearranges got had) : got.length = had.length := by
  simpa using (rearranges_iff_perm.mp h).length_eq

/-- A rearrangement has no other identifiers. -/
theorem Rearranges.forall_isIn (h : Rearranges got had) : ∀ i ∈ got, i.isIn had = true :=
  forall_isIn_iff_subset.mpr (rearranges_iff_perm.mp h).subset

/-- A rearrangement repeats identifiers only if the list does. -/
theorem Rearranges.distinct_iff (h : Rearranges got had) : Distinct got ↔ Distinct had := by
  rw [distinct_iff_nodup, distinct_iff_nodup]
  exact (rearranges_iff_perm.mp h).nodup_iff

/-- As many identifiers and no other ones make a rearrangement if they are not repeated. -/
theorem rearranges_of_distinct (hgot : Distinct got) (hlength : got.length = had.length)
    (hin : ∀ i ∈ got, i.isIn had = true) : Rearranges got had := by
  have hsub := List.subperm_of_subset ((distinct_iff_nodup got).mp hgot)
    (forall_isIn_iff_subset.mp hin)
  rw [rearranges_iff_perm]
  apply hsub.perm_of_length_le
  simp only [List.length_map, hlength, Nat.le_refl]

/-- Of a list without repetition, as many identifiers and no other ones are a rearrangement or
repeat some in place of others, and not both. -/
theorem rearranges_iff (hhad : Distinct had) :
    Rearranges got had ↔
      (got.length = had.length ∧ ∀ i ∈ got, i.isIn had = true) ∧ ¬Repeats got had := by
  constructor
  · intro h
    have hgot := h.distinct_iff.mpr hhad
    exact ⟨⟨h.length_eq, h.forall_isIn⟩, fun hrepeats => hrepeats.2.2 hgot⟩
  · rintro ⟨⟨hlength, hin⟩, hrepeats⟩
    by_cases hgot : Distinct got
    · exact rearranges_of_distinct hgot hlength hin
    · exact absurd ⟨hlength, hin, hgot⟩ hrepeats

end AcmeClient.Identifier
