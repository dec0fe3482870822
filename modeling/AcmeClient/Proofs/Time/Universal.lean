import AcmeClient.Proofs.Time.Calendar
import AcmeClient.Time.Duration

/-!
# Universal time

A second of universal time has a date of the calendar and a time of the day, which texts give by
numerals of a fixed width. Every second has one such time, and only one that is no leap second.
-/

namespace AcmeClient

/-- Whether characters are the decimal digits of a number, as many as a width. -/
structure IsNumeral (width n : Nat) (cs : List Char) : Prop where
  length : cs.length = width
  isDigit : ∀ c ∈ cs, c.isDigit
  value : Nat.ofDigitChars 10 cs 0 = n

/-- A number that is padded to a width is a numeral of that width. -/
theorem Duration.isNumeral_padded {width n : Nat} (hwidth : 0 < width) (hn : n < 10 ^ width) :
    IsNumeral width n (padded width n) := by
  have hlength := (Nat.length_toDigits_le_iff (by decide) hwidth).mpr hn
  unfold padded
  refine ⟨?_, fun c hc => ?_, ?_⟩
  · rw [List.length_append, List.length_replicate]
    omega
  · rcases List.mem_append.mp hc with hc | hc
    · rw [List.eq_of_mem_replicate hc]
      rfl
    · exact Nat.isDigit_of_mem_toDigits (by decide) (by decide) hc
  · rw [Nat.ofDigitChars_append, Nat.ofDigitChars_replicate_zero, Nat.mul_zero,
      Nat.ofDigitChars_ten_toDigits]

/-- A second of universal time; the last minute of a day may have a leap second. -/
structure UniversalTime where
  date : CivilDate
  hour : Nat
  minute : Nat
  second : Nat
  inCalendar : date.isValid
  hour_lt : hour < 24
  minute_lt : minute < 60
  second_le : second ≤ 60

namespace UniversalTime

/-- The seconds from the start of 1970, where a leap second counts as the one after it. -/
def seconds (t : UniversalTime) : Int :=
  t.date.dayNumber * 86400 + t.hour * 3600 + t.minute * 60 + t.second

/-- Whether this is a leap second. -/
def IsLeap (t : UniversalTime) : Prop := t.second = 60

instance (t : UniversalTime) : Decidable t.IsLeap := inferInstanceAs (Decidable (t.second = 60))

/-- Whether the year can be written with four digits. -/
def HasFourDigits (t : UniversalTime) : Prop := 0 ≤ t.date.year ∧ t.date.year ≤ 9999

/-- Whether the year can be written with four digits and a sign. -/
def HasSignedDigits (t : UniversalTime) : Prop := -9999 ≤ t.date.year ∧ t.date.year ≤ 9999

/-- A year that needs no sign can be written with one. -/
theorem HasFourDigits.hasSignedDigits {t : UniversalTime} (h : t.HasFourDigits) :
    t.HasSignedDigits := ⟨by have := h.1; omega, h.2⟩

/-- The universal time of a second. -/
def ofSeconds (n : Int) : UniversalTime where
  date := .ofDays (n / 86400)
  hour := (n % 86400).toNat / 3600
  minute := (n % 86400).toNat / 60 % 60
  second := (n % 86400).toNat % 60
  inCalendar := CivilDate.isValid_ofDays _
  hour_lt := by omega
  minute_lt := by omega
  second_le := by omega

/-- No leap second is needed to tell a second. -/
theorem not_isLeap_ofSeconds (n : Int) : ¬(ofSeconds n).IsLeap := by
  unfold IsLeap ofSeconds
  dsimp only
  omega

/-- The universal time of a second is at that second. -/
@[simp] theorem seconds_ofSeconds (n : Int) : (ofSeconds n).seconds = n := by
  unfold seconds ofSeconds
  dsimp only
  rw [CivilDate.dayNumber_ofDays]
  omega

/-- A time that is no leap second is the universal time of its second. -/
theorem ofSeconds_seconds {t : UniversalTime} (h : ¬t.IsLeap) : ofSeconds t.seconds = t := by
  obtain ⟨date, hour, minute, second, hdate, hhour, hminute, hsecond⟩ := t
  have hlt : second < 60 := Nat.lt_of_le_of_ne hsecond h
  unfold seconds ofSeconds
  dsimp only
  have hday : (date.dayNumber * 86400 + hour * 3600 + minute * 60 + second : Int) / 86400 =
      date.dayNumber := by omega
  have hrest : ((date.dayNumber * 86400 + hour * 3600 + minute * 60 + second : Int) % 86400).toNat =
      hour * 3600 + minute * 60 + second := by omega
  simp only [mk.injEq]
  rw [hday, hrest, CivilDate.ofDays_eq_iff]
  exact ⟨⟨hdate, rfl⟩, by omega, by omega, by omega⟩

/-- The years from one on are the seconds from its start on. -/
theorem le_year_ofSeconds_iff {year n : Int} :
    year ≤ (ofSeconds n).date.year ↔ CivilDate.daysBeforeYear year * 86400 ≤ n := by
  rw [CivilDate.le_year_iff (ofSeconds n).inCalendar, ofSeconds, CivilDate.dayNumber_ofDays]
  omega

/-- The days and months of a date have two digits. -/
theorem date_lt (t : UniversalTime) : t.date.month < 100 ∧ t.date.day < 100 := by
  obtain ⟨⟨-, hmonth⟩, -, hday⟩ := CivilDate.isValid_iff.mp t.inCalendar
  have hlength : CivilDate.monthLength t.date.year t.date.month ≤ 31 := by
    unfold CivilDate.monthLength
    split_ifs <;> omega
  omega

end UniversalTime

end AcmeClient
