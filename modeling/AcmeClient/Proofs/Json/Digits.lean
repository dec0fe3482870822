import AcmeClient.Proofs.Json.Members
import AcmeClient.Proofs.Text.Cutting
import Mathlib.Data.List.TakeDrop
import Mathlib.Data.List.Basic

/-!
# Numbers in JSON text

A natural number is written with its decimal digits, the first of which is zero for zero only. So it
is read back as long as it fits and neither a digit nor a fraction or an exponent follows.
-/

namespace AcmeClient.Json

namespace Reader

variable {rest : Bytes}

/-- A decimal digit is written as the octet with its number. -/
theorem toNat_octet {c : Char} (h : c.isDigit = true) :
    48 ≤ c.toNat ∧ c.toNat ≤ 57 ∧ (octet c).toNat = c.toNat := by
  obtain ⟨hlow, hhigh⟩ : 48 ≤ c.toNat ∧ c.toNat ≤ 57 := by
    simpa [Char.isDigit, UInt32.le_iff_toNat_le] using h
  exact ⟨hlow, hhigh, Nat.mod_eq_of_lt (by omega)⟩

/-- A decimal digit as a character is one as an octet. -/
theorem isDigit_octet {c : Char} (h : c.isDigit = true) : isDigit (octet c) = true := by
  obtain ⟨hlow, hhigh, hval⟩ := toNat_octet h
  simp only [isDigit, Bool.and_eq_true, decide_eq_true_eq, UInt8.le_iff_toNat_le, hval]
  exact ⟨hlow, hhigh⟩

/-- A decimal digit has the same value as a character and as an octet. -/
theorem digitValue_octet {c : Char} (h : c.isDigit = true) :
    digitValue (octet c) = c.toNat - '0'.toNat := by
  rw [digitValue, (toNat_octet h).2.2]
  rfl

/-- Only the digit zero is written as its octet. -/
theorem octet_eq_zero_iff {c : Char} (h : c.isDigit = true) : octet c = octet '0' ↔ c = '0' := by
  rw [← UInt8.toNat_inj, (toNat_octet h).2.2, ← Char.toNat_inj]
  exact Iff.rfl

/-- No digit is a blank or a sign. -/
theorem isBlank_of_isDigit {b : UInt8} (h : isDigit b = true) :
    isBlank b = false ∧ b ≠ octet '-' := by
  have hne : ∀ c, isDigit c = false → b ≠ c := by
    rintro c hc rfl
    rw [hc] at h
    cases h
  refine ⟨?_, hne _ (by decide)⟩
  simp [isBlank, hne 0x20 (by decide), hne 0x0A (by decide), hne 0x0D (by decide),
    hne 0x09 (by decide)]

/-- What ends a value does not continue a number. -/
theorem not_digit_of_ends (h : Ends rest) : ∀ b ∈ rest.head?,
    isDigit b = false ∧ b ≠ octet '.' ∧ b ≠ octet 'e' ∧ b ≠ octet 'E' := by
  intro b hb
  rcases h b hb with rfl | rfl | rfl <;> decide

/-- The digits in front are all digits that are written. -/
theorem span_digits {cs : List Char} (hcs : ∀ c ∈ cs, c.isDigit = true) (h : Ends rest) :
    (ascii cs ++ rest).span isDigit = (ascii cs, rest) := by
  have hall : ∀ b ∈ ascii cs, isDigit b = true := by
    intro b hb
    obtain ⟨c, hc, rfl⟩ := List.mem_map.mp hb
    exact isDigit_octet (hcs c hc)
  obtain ⟨htake, hdrop⟩ := Text.span_append hall fun b hb => (not_digit_of_ends h b hb).1
  rw [List.span_eq_takeWhile_dropWhile, htake, hdrop]

/-- Digits only make a number greater. -/
theorem le_ofDigitChars (cs : List Char) (n : Nat) : n ≤ Nat.ofDigitChars 10 cs n := by
  induction cs generalizing n with
  | nil => exact Nat.le_refl n
  | cons c cs ih =>
    rw [Nat.ofDigitChars_cons]
    have := ih (10 * n + (c.toNat - '0'.toNat))
    omega

/-- Digits are taken up as long as the number stays within the limit. -/
theorem absorb_digits {limit : Nat} {cs : List Char} (hcs : ∀ c ∈ cs, c.isDigit = true) {n : Nat}
    (h : Nat.ofDigitChars 10 cs n ≤ limit) :
    absorb limit n (ascii cs) = (Nat.ofDigitChars 10 cs n, []) := by
  induction cs generalizing n with
  | nil => rfl
  | cons c cs ih =>
    obtain ⟨hc, hcs⟩ := List.forall_mem_cons.mp hcs
    rw [Nat.ofDigitChars_cons] at h ⊢
    have hle := le_ofDigitChars cs (10 * n + (c.toNat - '0'.toNat))
    change absorb limit n (octet c :: ascii cs) = _
    rw [absorb, digitValue_octet hc, Nat.mul_comm n 10, if_neg (by omega), ih hcs h]

/-- No number but zero starts with a zero. -/
theorem head?_toDigits_ne {n : Nat} (h : n ≠ 0) : (Nat.toDigits 10 n).head? ≠ some '0' := by
  induction n using Nat.strongRecOn with
  | ind n ih =>
    rw [Nat.toDigits_eq_if (by decide)]
    split
    · rename_i hn
      have hdigit : ∀ n < 10, n ≠ 0 → n.digitChar ≠ '0' := by decide
      simpa using hdigit n hn h
    · rename_i hn
      rw [List.head?_append_of_ne_nil _ Nat.toDigits_ne_nil]
      exact ih (n / 10) (by omega) (by omega)

/-- A number that fits is read back. -/
theorem unsigned_digits {n : Nat} (hn : n ≤ integerLimit) (h : Ends rest) :
    unsigned false (ascii (Nat.toDigits 10 n) ++ rest) = .ok (.integer n, rest) := by
  have hcs : ∀ c ∈ Nat.toDigits 10 n, c.isDigit = true :=
    fun c hc => Nat.isDigit_of_mem_toDigits (by decide) (by decide) hc
  have hvalue : Nat.ofDigitChars 10 (Nat.toDigits 10 n) 0 = n :=
    Nat.ofDigitChars_toDigits (by decide) (by decide)
  have hfits : Nat.ofDigitChars 10 (Nat.toDigits 10 n) 0 ≤ integerLimit := hvalue.symm ▸ hn
  have habsorb := absorb_digits hcs hfits
  rw [hvalue] at habsorb
  have hwhole : unsigned.whole false n [] rest = .ok (.integer n, rest) := rfl
  unfold unsigned
  rw [span_digits hcs h]
  cases hdigits : Nat.toDigits 10 n with
  | nil => exact absurd hdigits Nat.toDigits_ne_nil
  | cons c more =>
    have hzero : ¬(octet c = octet '0' ∧ ascii more ≠ []) := by
      rintro ⟨hc, hmore⟩
      rw [octet_eq_zero_iff (hcs c (by rw [hdigits]; exact List.mem_cons_self))] at hc
      by_cases hn : n = 0
      · subst hn
        cases hdigits
        exact hmore rfl
      · exact head?_toDigits_ne hn (by rw [hdigits, hc]; rfl)
    rw [hdigits] at habsorb
    have hcons : ascii (c :: more) = octet c :: ascii more := rfl
    rw [hcons] at habsorb ⊢
    cases rest with
    | nil =>
      dsimp only
      rw [if_neg hzero, habsorb]
      exact hwhole
    | cons b rest =>
      obtain ⟨-, hpoint, hlower, hupper⟩ := not_digit_of_ends h b rfl
      dsimp only
      rw [if_neg hzero, if_neg hpoint, if_neg (not_or.mpr ⟨hlower, hupper⟩), habsorb]
      exact hwhole

/-- A number that fits and is below the bound is read back. -/
theorem natBelow_digits {n bound : Nat} (hn : n ≤ integerLimit) (hbound : n < bound)
    (h : Ends rest) : natBelow bound (ascii (Nat.toDigits 10 n) ++ rest) = .ok (n, rest) := by
  have hunsigned := unsigned_digits hn h
  cases hdigits : Nat.toDigits 10 n with
  | nil => exact absurd hdigits Nat.toDigits_ne_nil
  | cons c more =>
    have hc : isDigit (octet c) = true := isDigit_octet <|
      Nat.isDigit_of_mem_toDigits (b := 10) (n := n) (by decide) (by decide)
        (by rw [hdigits]; exact List.mem_cons_self)
    obtain ⟨hblank, hsign⟩ := isBlank_of_isDigit hc
    rw [hdigits] at hunsigned
    have hnumber : number (octet c :: (ascii more ++ rest)) = .ok (.integer n, rest) := by
      change (if octet c = octet '-' then _ else unsigned false) _ = _
      rw [if_neg hsign]
      exact hunsigned
    have hinside : (0 : Int) ≤ n ∧ (n : Int) < bound :=
      ⟨Int.natCast_nonneg n, Int.ofNat_lt.mpr hbound⟩
    unfold natBelow
    change (peek >>= _) (octet c :: (ascii more ++ rest)) = _
    rw [bind_of_eq_ok (peek_cons hblank _)]
    dsimp only
    rw [if_pos (Or.inr hc), bind_of_eq_ok hnumber]
    dsimp only
    rw [if_pos hinside]
    rfl

end Reader

end AcmeClient.Json
