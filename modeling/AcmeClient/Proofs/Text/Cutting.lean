import AcmeClient.Text.Blank
import Mathlib.Data.List.DropRight
import Mathlib.Data.List.Induction

/-!
# What cutting a text leaves

Cutting at an end stops at the first character that fails the test. The pieces between separators
make up the text again, and one more separator at the end makes one more piece.
-/

namespace AcmeClient.Text

/-- Cutting at the beginning takes all that satisfies the test, if what follows does not. -/
theorem span_append {α : Type} {p : α → Bool} {l rest : List α} (h : ∀ x ∈ l, p x = true)
    (hrest : ∀ x ∈ rest.head?, p x = false) :
    (l ++ rest).takeWhile p = l ∧ (l ++ rest).dropWhile p = rest := by
  rw [List.takeWhile_append_of_pos h, List.dropWhile_append_of_pos h]
  cases rest with
  | nil => exact ⟨List.append_nil l, rfl⟩
  | cons x rest =>
    have hx := Bool.eq_false_iff.mp (hrest x rfl)
    rw [List.takeWhile_cons_of_neg hx, List.dropWhile_cons_of_neg hx, List.append_nil]
    exact ⟨rfl, rfl⟩

variable {p : Char → Bool} {cs rest : List Char} {last : Char}

/-- What is cut off an end satisfies the test. -/
theorem exists_dropEndWhile_append (p : Char → Bool) (cs : List Char) :
    ∃ cut, cs = dropEndWhile p cs ++ cut ∧ ∀ c ∈ cut, p c = true :=
  ⟨cs.rtakeWhile p, List.rdropWhile_append_rtakeWhile.symm,
    fun _ hc => List.mem_rtakeWhile_imp hc⟩

/-- Nothing is cut off if the last character fails the test. -/
theorem dropEndWhile_of_getLast? (h : ∀ c ∈ cs.getLast?, p c = false) : dropEndWhile p cs = cs := by
  refine List.rdropWhile_eq_self_iff.mpr fun hne => ?_
  rw [h _ (List.getLast?_eq_getLast_of_ne_nil hne)]
  exact Bool.false_ne_true

/-- The last character left fails the test. -/
theorem getLast?_dropEndWhile (p : Char → Bool) (cs : List Char) :
    ∀ c ∈ (dropEndWhile p cs).getLast?, p c = false := by
  intro c hc
  have hne : dropEndWhile p cs ≠ [] := by
    rintro hnil
    rw [hnil] at hc
    cases hc
  have hlast := List.rdropWhile_last_not p cs hne
  rw [List.getLast?_eq_getLast_of_ne_nil hne] at hc
  cases hc
  exact Bool.eq_false_iff.mpr hlast

/-- More characters that satisfy the test are cut off as well. -/
theorem dropEndWhile_append {cut : List Char} (h : ∀ c ∈ cut, p c = true) :
    dropEndWhile p (cs ++ cut) = dropEndWhile p cs := by
  induction cut using List.reverseRecOn with
  | nil => rw [List.append_nil]
  | append_singleton cut c ih =>
    rw [← List.append_assoc]
    exact (List.rdropWhile_concat_pos p _ c (h c (by simp))).trans
      (ih fun d hd => h d (List.mem_append_left _ hd))

/-- A character that fails the test keeps what stands before it from being cut off. -/
theorem dropEndWhile_append_left (h : ∀ c ∈ cs.getLast?, p c = false) (rest : List Char) :
    dropEndWhile p (cs ++ rest) = cs ++ dropEndWhile p rest := by
  obtain ⟨cut, hcut, hall⟩ := exists_dropEndWhile_append p rest
  conv_lhs => rw [hcut, ← List.append_assoc, dropEndWhile_append hall]
  refine dropEndWhile_of_getLast? fun c hc => ?_
  cases hrest : (dropEndWhile p rest).getLast? with
  | none => exact h c (by simpa [List.getLast?_append, hrest] using hc)
  | some d =>
    obtain rfl : d = c := by simpa [List.getLast?_append, hrest] using hc
    exact getLast?_dropEndWhile p rest d hrest

/-- Only the end of a text is trimmed if its first character is no blank. -/
theorem trimChars_of_head? (h : ∀ c ∈ cs.head?, isBlank c = false) :
    trimChars cs = dropEndWhile isBlank cs := by
  cases cs with
  | nil => rfl
  | cons c cs => rw [trimChars, List.dropWhile_cons_of_neg (by simp [h c rfl])]

/-- A text whose ends are no blanks is trimmed already. -/
theorem trimChars_eq_self (hfirst : ∀ c ∈ cs.head?, isBlank c = false)
    (hlast : ∀ c ∈ cs.getLast?, isBlank c = false) : trimChars cs = cs := by
  rw [trimChars_of_head? hfirst, dropEndWhile_of_getLast? hlast]

/-- Only the beginning of a text is trimmed if its last character is no blank. -/
theorem trimChars_of_getLast? (h : ∀ c ∈ cs.getLast?, isBlank c = false) :
    trimChars cs = cs.dropWhile isBlank := by
  refine dropEndWhile_of_getLast? fun c hc => ?_
  obtain ⟨cut, hcut⟩ := List.dropWhile_suffix (p := isBlank) (l := cs)
  refine h c ?_
  rw [← hcut, List.getLast?_append, hc]
  rfl

/-- What comes before a last character makes up the text with it. -/
theorem beforeLast?_eq_some_iff : beforeLast? last cs = some rest ↔ cs = rest ++ [last] := by
  unfold beforeLast?
  constructor
  · intro h
    split at h
    · rename_i hlast
      cases h
      exact (List.dropLast_append_getLast? last hlast).symm
    · cases h
  · rintro rfl
    simp

section Pieces

variable (sep : Char)

/-- The pieces are those of the library. -/
theorem splitOn_eq (cs : List Char) : splitOn sep cs = cs.splitOn sep := by
  induction cs with
  | nil => rfl
  | cons c cs ih =>
    have hne := List.splitOn_ne_nil sep cs
    have hcons := List.splitOnP_cons_eq_if_modifyHead (p := (· == sep)) c cs
    rw [splitOn, ih]
    refine Eq.trans ?_ hcons.symm
    rw [← List.splitOn]
    by_cases hc : c = sep
    · simp [hc]
    · cases hpieces : cs.splitOn sep with
      | nil => exact absurd hpieces hne
      | cons piece pieces => simp [hc]

/-- Joining is that of the library. -/
theorem join_eq (sep : List Char) (pieces : List (List Char)) :
    join sep pieces = sep.intercalate pieces := by
  induction pieces with
  | nil => rfl
  | cons piece pieces ih =>
    cases pieces with
    | nil => simp [join]
    | cons next pieces =>
      rw [List.intercalate_cons_of_ne_nil (List.cons_ne_nil _ _), ← ih]
      rfl

/-- The pieces make up the text again. -/
theorem join_splitOn (cs : List Char) : join [sep] (splitOn sep cs) = cs := by
  rw [join_eq, splitOn_eq, List.intercalate_splitOn]

/-- There is at least one piece. -/
theorem splitOn_ne_nil (cs : List Char) : splitOn sep cs ≠ [] := by
  rw [splitOn_eq]
  exact List.splitOn_ne_nil sep cs

/-- A text with a separator in it has the pieces before it and the pieces after it. -/
theorem splitOn_append_cons (xs ys : List Char) :
    splitOn sep (xs ++ sep :: ys) = splitOn sep xs ++ splitOn sep ys := by
  simp only [splitOn_eq]
  exact List.splitOnP_append_cons xs ys (beq_self_eq_true sep)

/-- A text without a separator is one piece. -/
theorem splitOn_of_not_mem {cs : List Char} (h : sep ∉ cs) : splitOn sep cs = [cs] := by
  rw [splitOn_eq]
  exact List.splitOn_eq_singleton h

/-- What is joined has the characters of all pieces. -/
theorem subset_join {sep piece : List Char} {pieces : List (List Char)} (h : piece ∈ pieces) :
    piece ⊆ join sep pieces := by
  induction pieces with
  | nil => cases h
  | cons first pieces ih =>
    cases pieces with
    | nil =>
      obtain rfl := List.mem_singleton.mp h
      exact List.Subset.refl _
    | cons next pieces =>
      change piece ⊆ first ++ sep ++ join sep (next :: pieces)
      rcases List.mem_cons.mp h with rfl | h
      · exact List.Subset.trans (List.subset_append_left _ _) (List.subset_append_left _ _)
      · exact List.Subset.trans (ih h) (List.subset_append_right _ _)

/-- What is joined has no other characters than those of the pieces and the separator. -/
theorem mem_join {sep : List Char} {pieces : List (List Char)} {c : Char}
    (h : c ∈ join sep pieces) : c ∈ sep ∨ ∃ piece ∈ pieces, c ∈ piece := by
  induction pieces with
  | nil => cases h
  | cons first pieces ih =>
    cases pieces with
    | nil => exact .inr ⟨first, List.mem_singleton_self _, h⟩
    | cons next pieces =>
      change c ∈ first ++ sep ++ join sep (next :: pieces) at h
      rw [List.mem_append, List.mem_append] at h
      rcases h with (h | h) | h
      · exact .inr ⟨first, List.mem_cons_self, h⟩
      · exact .inl h
      · exact (ih h).imp_right fun ⟨piece, hpiece, hc⟩ => ⟨piece, List.mem_cons_of_mem _ hpiece, hc⟩

/-- A character of a text other than the separator is in one of the pieces. -/
theorem exists_mem_splitOn {cs : List Char} {c : Char} (h : c ∈ cs) (hsep : c ≠ sep) :
    ∃ piece ∈ splitOn sep cs, c ∈ piece := by
  rw [← join_splitOn sep cs] at h
  exact (mem_join h).resolve_left fun hc => hsep (List.mem_singleton.mp hc)

/-- Pieces have only characters of the text. -/
theorem subset_of_mem_splitOn {cs piece : List Char} (h : piece ∈ splitOn sep cs) : piece ⊆ cs := by
  have hsubset : piece ⊆ join [sep] (splitOn sep cs) := subset_join h
  rwa [join_splitOn] at hsubset

/-- An empty last piece puts a separator at the end. -/
theorem join_concat_nil {pieces : List (List Char)} (h : pieces ≠ []) :
    join [sep] (pieces ++ [[]]) = join [sep] pieces ++ [sep] := by
  induction pieces with
  | nil => exact absurd rfl h
  | cons piece pieces ih =>
    cases pieces with
    | nil => simp [join]
    | cons next pieces =>
      have hrest := ih (List.cons_ne_nil _ _)
      simp only [List.cons_append, join, List.append_assoc] at hrest ⊢
      rw [hrest]

end Pieces

end AcmeClient.Text
