import AcmeClient.Proofs.Text.Octets
import Mathlib.Tactic.IntervalCases

/-!
# Reading octets as text

The first octet of a character is never taken for a later one of another character. So a character
among octets is found in their text wherever it stands, also behind octets that are no text.
-/

namespace AcmeClient.Utf8

/-- Whether a sequence goes on with octets that begin no character. -/
def Pending.IsInner (p : Pending) : Prop := 0x80 ≤ p.least ∧ p.greatest ≤ 0xBF

/-- Whether a character may begin with an octet. -/
def IsLead (b : UInt8) : Prop := b < 0x80 ∨ 0xC0 ≤ b

/-- Whether what an octet begins, if that is a sequence, goes on with octets that begin no
character. -/
def GoesOnInside (r : Char ⊕ Pending) : Prop := ∀ p, r = .inr p → p.IsInner

/-- What an octet begins goes on with octets that begin no character. -/
theorem goesOnInside_first (b : UInt8) : GoesOnInside (first b) := by
  have hchar (c : Char) : GoesOnInside (.inl c) := fun _ h => by cases h
  have hbegun {owed value : Nat} {least greatest : UInt8} (hleast : 0x80 ≤ least)
      (hgreatest : greatest ≤ 0xBF) : GoesOnInside (.inr ⟨owed, least, greatest, value⟩) :=
    fun _ h => Sum.inr.inj h ▸ ⟨hleast, hgreatest⟩
  unfold first
  dsimp only
  repeat' refine iteInduction (fun _ => ?_) (fun _ => ?_)
  all_goals first | exact hchar _ | exact hbegun (by decide) (by decide)

section Sequences

variable {b : UInt8} {p : Pending} {owed value n : Nat} {least greatest : UInt8} (rest : Bytes)

/-- An octet that begins a sequence is not read alone. -/
theorem decodeFrom_first (h : first b = .inr p) :
    decodeFrom none (b :: rest) = decodeFrom (some p) rest := by
  simp [decodeFrom, h]

/-- An unfinished sequence ends where a character may begin. -/
theorem decodeFrom_of_isLead (hp : p.IsInner) (hb : IsLead b) :
    decodeFrom (some p) (b :: rest) = replacement :: decodeFrom none (b :: rest) := by
  have hout : ¬(p.least ≤ b ∧ b ≤ p.greatest) := by
    rintro ⟨hle, hge⟩
    rcases hb with hb | hb
    · exact absurd (UInt8.lt_of_lt_of_le hb hp.1) (UInt8.not_lt.mpr hle)
    · exact absurd (UInt8.le_trans (UInt8.le_trans hb hge) hp.2) (by decide)
  simp only [decodeFrom, if_neg hout]
  cases first b <;> rfl

/-- A later octet of a character adds six bits. -/
theorem decodeFrom_next (hn : n < 64) (hleast : least.toNat ≤ n + 0x80)
    (hgreatest : n + 0x80 ≤ greatest.toNat) :
    decodeFrom (some ⟨owed, least, greatest, value⟩) (UInt8.ofNat (n + 0x80) :: rest) =
      if owed = 1 then Char.ofNat (value * 64 + n) :: decodeFrom none rest
      else decodeFrom (some ⟨owed - 1, 0x80, 0xBF, value * 64 + n⟩) rest := by
  have hnat : (UInt8.ofNat (n + 0x80)).toNat = n + 0x80 := by
    rw [UInt8.toNat_ofNat_of_lt' (show _ < 256 by omega)]
  have hin : least ≤ UInt8.ofNat (n + 0x80) ∧ UInt8.ofNat (n + 0x80) ≤ greatest := by
    rw [UInt8.le_iff_toNat_le, UInt8.le_iff_toNat_le, hnat]
    exact ⟨hleast, hgreatest⟩
  rw [decodeFrom, if_pos hin, hnat, Nat.add_sub_cancel]

end Sequences

/-- The first octet of a character of two octets. -/
theorem first_of_two {n : Nat} (h : 2 ≤ n) (h' : n < 32) :
    first (UInt8.ofNat (n + 0xC0)) = .inr ⟨1, 0x80, 0xBF, n⟩ := by
  interval_cases n <;> rfl

/-- The first octet of a character of three octets. -/
theorem first_of_three {n : Nat} (h : n < 16) : first (UInt8.ofNat (n + 0xE0)) =
    .inr ⟨2, if n = 0 then 0xA0 else 0x80, if n = 13 then 0x9F else 0xBF, n⟩ := by
  interval_cases n <;> rfl

/-- The first octet of a character of four octets. -/
theorem first_of_four {n : Nat} (h : n < 5) : first (UInt8.ofNat (n + 0xF0)) =
    .inr ⟨3, if n = 0 then 0x90 else 0x80, if n = 4 then 0x8F else 0xBF, n⟩ := by
  interval_cases n <;> rfl

/-- The octets of a character begin with one that may begin a character. -/
theorem exists_encode_eq_cons (c : Char) :
    ∃ b more, encode (.ofList [c]) = b :: more ∧ IsLead b := by
  have hhigh {n k : Nat} (hk : 0xC0 ≤ k) (hn : n + k < 256) : IsLead (UInt8.ofNat (n + k)) := by
    refine .inr (UInt8.le_iff_toNat_le.mpr ?_)
    rw [UInt8.toNat_ofNat_of_lt' hn]
    exact Nat.le_trans hk (Nat.le_add_left k n)
  rw [encode_ofList_singleton]
  unfold String.utf8EncodeChar
  dsimp only
  split
  · rename_i hlt
    refine ⟨_, _, rfl, .inl (UInt8.lt_iff_toNat_lt.mpr ?_)⟩
    rw [UInt8.toNat_ofNat_of_lt' (show _ < 256 by omega)]
    exact Nat.lt_succ_of_le hlt
  · split
    · exact ⟨_, _, rfl, hhigh (by decide) (by omega)⟩
    · split
      · exact ⟨_, _, rfl, hhigh (by decide) (by omega)⟩
      · exact ⟨_, _, rfl, hhigh (by decide) (by omega)⟩

/-- A character of ASCII is read from its octet. -/
theorem first_ofNat {c : Char} (h : c.toNat < 0x80) : first (UInt8.ofNat c.toNat) = .inl c := by
  have hnat : (UInt8.ofNat c.toNat).toNat = c.toNat := by
    rw [UInt8.toNat_ofNat_of_lt' (show _ < 256 by omega)]
  have hlt : UInt8.ofNat c.toNat < 0x80 := by
    rw [UInt8.lt_iff_toNat_lt, hnat]
    exact h
  simp [first, hlt, hnat]

/-- A character is read from its octets. -/
theorem decodeFrom_encode_append (c : Char) (rest : Bytes) :
    decodeFrom none (encode (.ofList [c]) ++ rest) = c :: decodeFrom none rest := by
  by_cases hascii : c.toNat < 0x80
  · rw [encode_singleton hascii, List.singleton_append]
    simp only [decodeFrom, first_ofNat hascii]
  have hlow : ¬c.val.toNat ≤ 0x7F := fun h => hascii (Nat.lt_succ_of_le h)
  have hvalid : c.val.toNat < 0xD800 ∨ 0xDFFF < c.val.toNat ∧ c.val.toNat < 0x110000 := c.valid
  have hc {n : Nat} (hn : n = c.val.toNat) : Char.ofNat n = c := hn ▸ Char.ofNat_toNat c
  rw [encode_ofList_singleton]
  unfold String.utf8EncodeChar
  dsimp only
  rw [if_neg hlow]
  split
  · rw [List.cons_append, decodeFrom_first _ (first_of_two (by omega) (by omega)),
      List.cons_append, decodeFrom_next _ (by omega) (by simp) (by simp; omega), if_pos rfl,
      hc (by omega), List.nil_append]
  · split
    · rw [List.cons_append, decodeFrom_first _ (first_of_three (by omega)),
        List.cons_append, decodeFrom_next _ (by omega) ?least ?greatest, if_neg (by decide),
        List.cons_append, decodeFrom_next _ (by omega) (by simp) (by simp; omega), if_pos rfl,
        hc (by omega), List.nil_append]
      case least =>
        split
        · change 0xA0 ≤ _
          omega
        · change 0x80 ≤ _
          omega
      case greatest =>
        split
        · change _ ≤ 0x9F
          omega
        · change _ ≤ 0xBF
          omega
    · rw [List.cons_append, decodeFrom_first _ (first_of_four (by omega)),
        List.cons_append, decodeFrom_next _ (by omega) ?least ?greatest, if_neg (by decide),
        List.cons_append, decodeFrom_next _ (by omega) (by simp) (by simp; omega),
        if_neg (by decide),
        List.cons_append, decodeFrom_next _ (by omega) (by simp) (by simp; omega), if_pos rfl,
        hc (by omega), List.nil_append]
      case least =>
        split
        · change 0x90 ≤ _
          omega
        · change 0x80 ≤ _
          omega
      case greatest =>
        split
        · change _ ≤ 0x8F
          omega
        · change _ ≤ 0xBF
          omega

/-- A character among octets is one in their text, even after an unfinished sequence. -/
theorem decodeFrom_append_encode (pending : Option Pending)
    (hpending : ∀ p ∈ pending, p.IsInner) (b : Bytes) (c : Char) (rest : Bytes) :
    decodeFrom pending (b ++ (encode (.ofList [c]) ++ rest)) =
      decodeFrom pending b ++ c :: decodeFrom none rest := by
  induction b generalizing pending with
  | nil =>
    cases pending with
    | none => exact decodeFrom_encode_append c rest
    | some p =>
      obtain ⟨lead, more, hencode, hlead⟩ := exists_encode_eq_cons c
      have hread := decodeFrom_encode_append c rest
      rw [hencode, List.cons_append] at hread
      rw [List.nil_append, hencode, List.cons_append,
        decodeFrom_of_isLead _ (hpending p rfl) hlead, hread]
      rfl
  | cons b front ih =>
    have hnone := ih none (by simp)
    have hsome {p : Pending} (hp : p.IsInner) := ih (some p) (by simpa using hp)
    cases pending with
    | none =>
      simp only [List.cons_append, decodeFrom]
      split
      · rw [hnone, List.cons_append]
      · rename_i p hp
        exact hsome (goesOnInside_first _ p hp)
    | some p =>
      simp only [List.cons_append, decodeFrom]
      split
      · split
        · rw [hnone, List.cons_append]
        · exact hsome ⟨UInt8.le_refl _, UInt8.le_refl _⟩
      · split
        · rw [hnone, List.cons_append, List.cons_append]
        · rename_i q hq
          rw [hsome (goesOnInside_first _ q hq), List.cons_append]

end AcmeClient.Utf8
