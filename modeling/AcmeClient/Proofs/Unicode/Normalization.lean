import AcmeClient.Unicode.Normalization
import Mathlib.Data.List.Perm.Basic

/-!
# Low characters in a normal form

Low characters have no decomposition and are no marks, and they do not compose with anything before
them. One at the end of a text stays there in its normal form, and one that composes with nothing
behind it either stays wherever it is.
-/

namespace AcmeClient.Unicode

/-- Text of low characters is normal. -/
theorem normalize_of_forall_lt {cs : List Char} (h : ∀ c ∈ cs, c.toNat < 0x80) :
    normalize cs = cs := by
  refine if_pos (List.all_eq_true.mpr fun c hc => decide_eq_true ?_)
  exact Nat.lt_trans (h c hc) (by decide)

variable {d : Char} (hlow : d.toNat < 0xC0)

include hlow

/-- Low characters are no marks. -/
theorem combiningClass_of_lt : combiningClass d = 0 :=
  if_pos (Nat.lt_trans hlow (by decide))

/-- Low characters have no decomposition. -/
theorem decomposeChar_of_lt : decomposeChar 4 d = [d] := by
  have hall : ∀ n : Fin 0xC0, decomposeChar 4 (Char.ofNat n) = [Char.ofNat n] := by decide +kernel
  simpa using hall ⟨d.toNat, hlow⟩

/-- A low character does not compose with anything before it. -/
theorem composePair?_of_lt (c : Char) : composePair? c d = none :=
  if_pos (Nat.lt_trans hlow (by decide))

section End

/-- A low character stays at the end of the text before which a mark is put. -/
theorem insertMark_concat (c : Char) (cs : List Char) :
    insertMark c (cs ++ [d]) = insertMark c cs ++ [d] := by
  induction cs with
  | nil => simp [insertMark, combiningClass_of_lt hlow]
  | cons e cs ih =>
    simp only [List.cons_append, insertMark]
    split
    · rw [ih, List.cons_append]
    · rfl

/-- A low character stays at the end of the text whose marks are ordered. -/
theorem orderMarks_concat (cs : List Char) : orderMarks (cs ++ [d]) = orderMarks cs ++ [d] := by
  rw [orderMarks, orderMarks, List.foldr_append]
  induction cs with
  | nil => rfl
  | cons c cs ih => rw [List.foldr_cons, ih, insertMark_concat hlow, List.foldr_cons]

/-- A low character at the end of the text after a starter stays there. -/
theorem composeFrom_concat (starter : Char) (marks cs : List Char) :
    composeFrom starter marks (cs ++ [d]) = composeFrom starter marks cs ++ [d] := by
  induction cs generalizing starter marks with
  | nil => simp [composeFrom, composePair?_of_lt hlow, combiningClass_of_lt hlow]
  | cons c cs ih =>
    simp only [List.cons_append, composeFrom]
    split
    · exact ih _ _
    · split
      · simp [ih]
      · exact ih _ _

/-- A low character at the end of a text stays there when the text is composed. -/
theorem compose_concat (cs : List Char) : compose (cs ++ [d]) = compose cs ++ [d] := by
  have hstarter := combiningClass_of_lt hlow
  unfold compose
  rw [List.dropWhile_append, List.takeWhile_append]
  cases hrest : cs.dropWhile (combiningClass · ≠ 0) with
  | nil =>
    -- there are only marks, so that the character is the first starter
    have hmarks : cs.takeWhile (combiningClass · ≠ 0) = cs := by
      have hall := List.takeWhile_append_dropWhile (p := (combiningClass · ≠ 0)) (l := cs)
      rwa [hrest, List.append_nil] at hall
    rw [hmarks, if_pos rfl]
    simp [hstarter, composeFrom]
  | cons starter rest =>
    have hshort : (cs.takeWhile (combiningClass · ≠ 0)).length ≠ cs.length := by
      have hall := congrArg List.length
        (List.takeWhile_append_dropWhile (p := (combiningClass · ≠ 0)) (l := cs))
      rw [hrest, List.length_append, List.length_cons] at hall
      omega
    rw [if_neg hshort, if_neg (by simp)]
    simp only [List.cons_append, composeFrom_concat hlow, List.append_assoc]

/-- A low character at the end of a text stays there when the text is brought into normal form. -/
theorem normalize_concat (cs : List Char) : normalize (cs ++ [d]) = normalize cs ++ [d] := by
  unfold normalize
  rw [List.all_append]
  by_cases h : cs.all (·.toNat < 0xC0) = true
  · simp [h, hlow]
  · rw [Bool.eq_false_iff.mpr h]
    simp only [Bool.false_and, Bool.false_eq_true, if_false]
    rw [List.flatMap_append, List.flatMap_singleton, decomposeChar_of_lt hlow,
      orderMarks_concat hlow, compose_concat hlow]

end End

section Within

omit hlow in
/-- A mark that is put in front of a text is one more character. -/
theorem insertMark_perm (c : Char) (cs : List Char) : (insertMark c cs).Perm (c :: cs) := by
  induction cs with
  | nil => exact .refl _
  | cons e cs ih =>
    rw [insertMark]
    split
    · exact (ih.cons e).trans (.swap c e cs)
    · exact .refl _

omit hlow in
/-- Ordered text has the same characters. -/
theorem orderMarks_perm (cs : List Char) : (orderMarks cs).Perm cs := by
  induction cs with
  | nil => exact .refl _
  | cons c cs ih => exact (insertMark_perm c (orderMarks cs)).trans (ih.cons c)

variable (hinert : ∀ c, composePair? d c = none)

include hinert

/-- A low character that composes with nothing stays in the text after a starter. -/
theorem mem_composeFrom {starter : Char} {marks cs : List Char}
    (h : d ∈ starter :: (marks ++ cs)) : d ∈ composeFrom starter marks cs := by
  induction cs generalizing starter marks with
  | nil => simpa [composeFrom] using h
  | cons c cs ih =>
    simp only [composeFrom]
    split
    · -- neither of the two characters that make a composite is the one in question
      rename_i composite hpair
      have hstarter : d ≠ starter := by
        rintro rfl
        simp [hinert] at hpair
      have hmark : d ≠ c := by
        rintro rfl
        simp [composePair?_of_lt hlow] at hpair
      have hrest : d ∈ marks ++ cs := by simpa [hstarter, hmark] using h
      exact ih (List.mem_cons_of_mem composite hrest)
    · split
      · have hcases : d ∈ (starter :: marks) ++ c :: cs := h
        exact List.mem_append.mpr ((List.mem_append.mp hcases).imp_right fun hrest => ih hrest)
      · exact ih (by simpa using h)

/-- A low character that composes with nothing stays in a text that is composed. -/
theorem mem_compose {cs : List Char} (h : d ∈ cs) : d ∈ compose cs := by
  unfold compose
  split
  · exact h
  · rename_i starter rest hrest
    rw [← List.takeWhile_append_dropWhile (p := (combiningClass · ≠ 0)) (l := cs), hrest] at h
    refine List.mem_append.mpr ((List.mem_append.mp h).imp_right fun h => ?_)
    exact mem_composeFrom hlow hinert (by simpa using h)

/-- A low character that composes with nothing stays in a text that is brought into normal form. -/
theorem mem_normalize {cs : List Char} (h : d ∈ cs) : d ∈ normalize cs := by
  unfold normalize
  split
  · exact h
  · refine mem_compose hlow hinert ((orderMarks_perm _).mem_iff.mpr ?_)
    refine List.mem_flatMap.mpr ⟨d, h, ?_⟩
    rw [decomposeChar_of_lt hlow]
    exact List.mem_singleton_self d

end Within

end AcmeClient.Unicode
