import AcmeClient.Proofs.Der.Elements
import AcmeClient.Proofs.Time.Universal
import AcmeClient.X509.Certificate

/-!
# Dates in certificates

The ends of validity are dates in one of two forms, with two digits for the year or with four. Two
digits stand for a year from 1950 to 2049. What is read of an element is the second of the date that
the element gives.
-/

namespace AcmeClient.X509

open Der Der.Reader

/-- Octets as characters, one for each. -/
def asText (octets : Bytes) : List Char := octets.map Char.ofUInt8

/-- Whether characters give what follows the year of a time: two digits each for the month, the day,
the hour, the minute and the second, and the mark of universal time. -/
def IsAfterYear (t : UniversalTime) (cs : List Char) : Prop :=
  ∃ month day hour minute second, cs = month ++ day ++ hour ++ minute ++ second ++ ['Z'] ∧
    IsNumeral 2 t.date.month month ∧ IsNumeral 2 t.date.day day ∧ IsNumeral 2 t.hour hour ∧
    IsNumeral 2 t.minute minute ∧ IsNumeral 2 t.second second

/-- Whether an element gives a time, in the form for the years from 1950 to 2049 or for any year. -/
inductive IsTimeOf (t : UniversalTime) (e : Element) : Prop
  | twoDigits (year rest : List Char) (htag : e.tag = 0x17)
      (htext : asText e.content = year ++ rest) (hyear : IsNumeral 2 (t.date.year % 100).toNat year)
      (hrange : 1950 ≤ t.date.year ∧ t.date.year ≤ 2049) (hrest : IsAfterYear t rest)
  | fourDigits (year rest : List Char) (htag : e.tag = 0x18)
      (htext : asText e.content = year ++ rest) (hyear : IsNumeral 4 t.date.year.toNat year)
      (hrange : 0 ≤ t.date.year) (hrest : IsAfterYear t rest)

variable {a b : UInt8} {octets : Bytes} {n year : Nat} {x : Int}

/-- The octet of a digit as a character. -/
theorem isDigit_ofUInt8 (h : 0x30 ≤ a ∧ a ≤ 0x39) :
    (Char.ofUInt8 a).isDigit ∧ (Char.ofUInt8 a).toNat = a.toNat := by
  have hnat : (Char.ofUInt8 a).toNat = a.toNat := UInt8.toNat_toUInt32 a
  refine ⟨?_, hnat⟩
  obtain ⟨hlow, hhigh⟩ := h
  rw [UInt8.le_iff_toNat_le, ← hnat] at hlow hhigh
  simp only [Char.isDigit, Bool.and_eq_true, decide_eq_true_eq, ge_iff_le, UInt32.le_iff_toNat_le]
  exact ⟨hlow, hhigh⟩

/-- Two digits are a numeral. -/
theorem isNumeral_of_digitPair? (h : digitPair? a b = some n) : IsNumeral 2 n (asText [a, b]) := by
  unfold digitPair? at h
  split at h
  · rename_i hdigits
    cases h
    obtain ⟨ha, ha'⟩ := isDigit_ofUInt8 ⟨hdigits.1, hdigits.2.1⟩
    obtain ⟨hb, hb'⟩ := isDigit_ofUInt8 hdigits.2.2
    refine ⟨rfl, by simp [asText, ha, hb], ?_⟩
    simp [asText, Nat.ofDigitChars, ha', hb', Nat.mul_comm]
  · cases h

/-- Two digits give a number below a hundred. -/
theorem lt_of_digitPair? (h : digitPair? a b = some n) : n < 100 := by
  unfold digitPair? at h
  split at h
  · rename_i hdigits
    cases h
    simp only [UInt8.le_iff_toNat_le] at hdigits
    have hnine : (0x39 : UInt8).toNat = 57 := rfl
    omega
  · cases h

/-- Two pairs of digits are a numeral. -/
theorem isNumeral_of_pairs {m : Nat} {cs ds : List Char} (h : IsNumeral 2 n cs)
    (h' : IsNumeral 2 m ds) : IsNumeral 4 (n * 100 + m) (cs ++ ds) := by
  obtain ⟨hlength, hdigits, rfl⟩ := h
  obtain ⟨hlength', hdigits', rfl⟩ := h'
  refine ⟨by rw [List.length_append, hlength, hlength'], fun c hc => ?_, ?_⟩
  · exact (List.mem_append.mp hc).elim (hdigits c) (hdigits' c)
  · obtain ⟨a, b, rfl⟩ := List.length_eq_two.mp hlength
    obtain ⟨c, d, rfl⟩ := List.length_eq_two.mp hlength'
    simp [Nat.ofDigitChars]
    omega

/-- What is read behind a year is the second of the time that the octets give. -/
theorem exists_of_secondOf? (h : secondOf? year octets = some x) :
    ∃ t : UniversalTime, t.date.year = year ∧ IsAfterYear t (asText octets) ∧ t.seconds = x := by
  unfold secondOf? at h
  split at h
  · simp only [bind, Option.bind_eq_some_iff] at h
    obtain ⟨month, hmonth, day, hday, hour, hhour, minute, hminute, second, hsecond, h⟩ := h
    split at h
    · simp at h
    · rename_i hranges
      cases h
      simp only [not_or, Nat.not_lt, Bool.not_eq_true', Bool.not_eq_false] at hranges
      obtain ⟨-, hvalid, hhour', hminute', hsecond'⟩ := hranges
      refine ⟨⟨⟨year, month, day⟩, hour, minute, second, hvalid, by omega, by omega, by omega⟩, rfl,
        ⟨_, _, _, _, _, rfl, isNumeral_of_digitPair? hmonth, isNumeral_of_digitPair? hday,
          isNumeral_of_digitPair? hhour, isNumeral_of_digitPair? hminute,
          isNumeral_of_digitPair? hsecond⟩, ?_⟩
      rw [UniversalTime.seconds, CivilDate.toDays_eq_dayNumber hvalid]
  · cases h

/-- The second of a time whose year has two digits. -/
def shortForm? (a b : UInt8) (octets : Bytes) : Option Int := do
  let yy ← digitPair? a b
  secondOf? (if 50 ≤ yy then 1900 + yy else 2000 + yy) octets

/-- The second of a time whose year has four digits. -/
def longForm? (a b c d : UInt8) (octets : Bytes) : Option Int := do
  let high ← digitPair? a b
  let low ← digitPair? c d
  secondOf? (high * 100 + low) octets

/-- A year of two digits is one from 1950 to 2049. -/
theorem exists_of_shortForm? (h : shortForm? a b octets = some x) :
    ∃ t, IsTimeOf t ⟨0x17, a :: b :: octets⟩ ∧ t.seconds = x := by
  obtain ⟨yy, hyy, hrest⟩ := Option.bind_eq_some_iff.mp h
  obtain ⟨t, hyear, hafter, rfl⟩ := exists_of_secondOf? hrest
  have hlt := lt_of_digitPair? hyy
  have hcentury : 1950 ≤ t.date.year ∧ t.date.year ≤ 2049 ∧ (t.date.year % 100).toNat = yy := by
    split at hyear <;> omega
  obtain ⟨hlow, hhigh, hdigits⟩ := hcentury
  refine ⟨t, .twoDigits (asText [a, b]) _ rfl rfl ?_ ⟨hlow, hhigh⟩ hafter, rfl⟩
  rw [hdigits]
  exact isNumeral_of_digitPair? hyy

/-- A year of four digits stands for itself. -/
theorem exists_of_longForm? {c d : UInt8} (h : longForm? a b c d octets = some x) :
    ∃ t, IsTimeOf t ⟨0x18, a :: b :: c :: d :: octets⟩ ∧ t.seconds = x := by
  obtain ⟨high, hhigh, hmore⟩ := Option.bind_eq_some_iff.mp h
  obtain ⟨low, hlow, hrest⟩ := Option.bind_eq_some_iff.mp hmore
  obtain ⟨t, hyear, hafter, rfl⟩ := exists_of_secondOf? hrest
  refine ⟨t, .fourDigits (asText [a, b, c, d]) _ rfl rfl ?_ (by omega) hafter, rfl⟩
  rw [hyear, Int.toNat_natCast]
  exact isNumeral_of_pairs (isNumeral_of_digitPair? hhigh) (isNumeral_of_digitPair? hlow)

/-- A time takes an element that gives it. -/
theorem takes_time : Takes time fun e x => ∃ t, IsTimeOf t e ∧ t.seconds = x := by
  refine takes_element.bind fun e x s y t he h => ?_
  obtain rfl := he
  obtain ⟨tag, content⟩ := x
  dsimp only at h
  revert h
  split <;> intro h
  · rename_i a b rest
    cases hform : shortForm? a b rest with
    | none =>
      rw [shortForm?] at hform
      rw [hform] at h
      cases h
    | some second =>
      have hread := hform
      rw [shortForm?] at hread
      rw [hread] at h
      cases h
      exact ⟨rfl, exists_of_shortForm? hform⟩
  · rename_i a b c d rest
    cases hform : longForm? a b c d rest with
    | none =>
      rw [longForm?] at hform
      rw [hform] at h
      cases h
    | some second =>
      have hread := hform
      rw [longForm?] at hread
      rw [hread] at h
      cases h
      exact ⟨rfl, exists_of_longForm? hform⟩
  · cases h

/-- Whether an element has two times in it, and the second of the latter is a given one. -/
def EndsAt (validity : Element) (second : Int) : Prop :=
  ∃ start finish t, elements? validity.content = some [start, finish] ∧ IsTimeOf t finish ∧
    t.seconds = second

/-- A validity takes an element that ends at the second that is read. -/
theorem takes_validity :
    Takes (within 0x30 do let _ ← time; time) fun e x => e.tag = 0x30 ∧ EndsAt e x := by
  refine (takes_within 0x30 _).imp fun e x ⟨htag, hread⟩ => ⟨htag, ?_⟩
  obtain ⟨_, u, hstart, hfinish⟩ := exists_of_bind_eq_some hread
  obtain ⟨start, hstart, -⟩ := takes_time _ _ _ hstart
  obtain ⟨finish, hfinish, t, ht⟩ := takes_time _ _ _ hfinish
  exact ⟨start, finish, t, (Passes.more hstart (.single hfinish)).elements?_eq_some, ht⟩

end AcmeClient.X509
