import AcmeClient.Proofs.Text.Cutting
import AcmeClient.Proofs.Time.Universal
import AcmeClient.Time.Date

/-!
# Reading timestamps back

A timestamp gives an instant in universal time, with a numeral for each part of the second and the
digits of its fraction. It is read by position. What dates are written as are timestamps of their
instants, so that different instants are told apart.
-/

namespace AcmeClient

/-- Whether a text ends a second with its fraction: nothing if the fraction is zero, else a point
and at most nine digits, the last of which is not zero. -/
def IsFraction (nanosecond : Nat) (cs : List Char) : Prop :=
  (nanosecond = 0 ∧ cs = []) ∨
    ∃ digits, cs = '.' :: digits ∧ digits ≠ [] ∧ digits.length ≤ 9 ∧ (∀ c ∈ digits, c.isDigit) ∧
      digits.getLast? ≠ some '0' ∧
      Nat.ofDigitChars 10 digits 0 * 10 ^ (9 - digits.length) = nanosecond

/-- Whether characters are those of an instant in the form `YYYY-MM-DDTHH:MM:SS[.fraction]Z`. -/
def IsTimestamp (t : UniversalTime) (nanosecond : Nat) (cs : List Char) : Prop :=
  ∃ year month day hour minute second fraction,
    cs = year ++ '-' :: month ++ '-' :: day ++ 'T' :: hour ++ ':' :: minute ++ ':' :: second ++
      fraction ++ ['Z'] ∧
    0 ≤ t.date.year ∧ IsNumeral 4 t.date.year.toNat year ∧ IsNumeral 2 t.date.month month ∧
    IsNumeral 2 t.date.day day ∧ IsNumeral 2 t.hour hour ∧ IsNumeral 2 t.minute minute ∧
    IsNumeral 2 t.second second ∧ IsFraction nanosecond fraction

namespace Timestamp

/-- The number whose digits begin at a position. -/
def numberAt (cs : List Char) (start width : Nat) : Nat :=
  Nat.ofDigitChars 10 ((cs.drop start).take width) 0

/-- The second that a timestamp gives, with the days counted out. -/
def second (cs : List Char) : Int :=
  let date : CivilDate :=
    { year := numberAt cs 0 4, month := numberAt cs 5 2, day := numberAt cs 8 2 }
  date.dayNumber * 86400 + numberAt cs 11 2 * 3600 + numberAt cs 14 2 * 60 + numberAt cs 17 2

/-- The nanoseconds of the fraction between the point and the end. -/
def nanosecond (cs : List Char) : Nat :=
  let digits := (cs.drop 20).dropLast
  Nat.ofDigitChars 10 digits 0 * 10 ^ (9 - digits.length)

/-- What stands in front, with the mark after it, is skipped. -/
theorem drop_append_cons {front rest : List Char} {c : Char} {length start : Nat}
    (h : front.length = length) (hstart : length < start) :
    (front ++ c :: rest).drop start = rest.drop (start - (length + 1)) := by
  obtain ⟨k, rfl⟩ := Nat.exists_eq_add_of_lt hstart
  rw [List.drop_append, List.drop_eq_nil_of_le (by omega), h, List.nil_append,
    show length + k + 1 - length = k + 1 by omega, List.drop_succ_cons,
    show length + k + 1 - (length + 1) = k by omega]

/-- A numeral is read up to what follows it. -/
theorem take_append {digits rest : List Char} {width n : Nat} (h : IsNumeral width n digits) :
    Nat.ofDigitChars 10 ((digits ++ rest).take width) 0 = n := by
  rw [List.take_left' h.length, h.value]

/-- The digits of a fraction are read back. -/
theorem nanosecond_of_isFraction {nano : Nat} {fraction front : List Char}
    (h : IsFraction nano fraction) (hfront : front.length = 19) :
    nanosecond (front ++ fraction ++ ['Z']) = nano := by
  unfold nanosecond
  rcases h with ⟨rfl, rfl⟩ | ⟨digits, rfl, -, -, -, -, hvalue⟩
  · have hdrop : (front ++ [] ++ ['Z']).drop 20 = [] := List.drop_eq_nil_of_le (by simp [hfront])
    rw [hdrop]
    rfl
  · have hdrop : (front ++ '.' :: digits ++ ['Z']).drop 20 = digits ++ ['Z'] := by
      rw [List.append_assoc, List.cons_append, drop_append_cons hfront (by decide)]
      rfl
    rw [hdrop, List.dropLast_concat]
    exact hvalue

/-- A timestamp is read back as its instant. -/
theorem read_of_isTimestamp {t : UniversalTime} {nano : Nat} {cs : List Char}
    (h : IsTimestamp t nano cs) : second cs = t.seconds ∧ nanosecond cs = nano := by
  obtain ⟨year, month, day, hour, minute, sec, fraction, rfl, hpos, hyear, hmonth, hday, hhour,
    hminute, hsecond, hfraction⟩ := h
  constructor
  · unfold second UniversalTime.seconds numberAt
    simp only [List.append_assoc, List.cons_append, List.drop_zero,
      drop_append_cons hyear.length, drop_append_cons hmonth.length, drop_append_cons hday.length,
      drop_append_cons hhour.length, drop_append_cons hminute.length, Nat.reduceAdd, Nat.reduceSub,
      Nat.reduceLT, take_append hyear, take_append hmonth, take_append hday, take_append hhour,
      take_append hminute, take_append hsecond, Int.toNat_of_nonneg hpos]
  · apply nanosecond_of_isFraction hfraction
    simp [hyear.length, hmonth.length, hday.length, hhour.length, hminute.length, hsecond.length]

end Timestamp

namespace Date

/-- The nanoseconds of a second are written as its fraction. -/
theorem isFraction_fractionDigits {n : Nat} (h : n < 1000000000) :
    IsFraction n (if n = 0 then [] else '.' :: fractionDigits n) := by
  by_cases hn : n = 0
  · rw [if_pos hn]
    exact Or.inl ⟨hn, rfl⟩
  rw [if_neg hn]
  have hpadded : IsNumeral 9 n (Duration.padded 9 n) := Duration.isNumeral_padded (by decide) h
  obtain ⟨cut, hcut, hzero⟩ := Text.exists_dropEndWhile_append (· = '0') (Duration.padded 9 n)
  have hlast := Text.getLast?_dropEndWhile (· = '0') (Duration.padded 9 n)
  change Duration.padded 9 n = fractionDigits n ++ cut at hcut
  change ∀ c ∈ (fractionDigits n).getLast?, _ at hlast
  generalize fractionDigits n = digits at hcut hlast ⊢
  rw [hcut] at hpadded
  have hlength : digits.length + cut.length = 9 := by
    rw [← List.length_append]
    exact hpadded.length
  have hcut' : cut = List.replicate cut.length '0' :=
    List.eq_replicate_of_mem fun c hc => of_decide_eq_true (hzero c hc)
  have hvalue : 10 ^ cut.length * Nat.ofDigitChars 10 digits 0 = n := by
    rw [← Nat.ofDigitChars_replicate_zero, ← hcut', ← Nat.ofDigitChars_append]
    exact hpadded.value
  refine Or.inr ⟨digits, rfl, ?_, by omega, fun c hc => ?_, fun hc => ?_, ?_⟩
  · rintro rfl
    exact hn hvalue.symm
  · exact hpadded.isDigit c (List.mem_append_left _ hc)
  · simpa using hlast _ hc
  · rw [show 9 - digits.length = cut.length by omega, Nat.mul_comm]
    exact hvalue

variable {d e u : Date} {text : String}

/-- Dates have a year of at most four digits, which may have a sign. -/
theorem hasSignedDigits_iff {n : Int} :
    (UniversalTime.ofSeconds n).HasSignedDigits ↔ firstSecond ≤ n ∧ n ≤ lastSecond := by
  have hfirst : CivilDate.daysBeforeYear (-9999) * 86400 = firstSecond := by
    rw [CivilDate.daysBeforeYear_eq]
    rfl
  have hend : CivilDate.daysBeforeYear 10000 * 86400 = lastSecond + 1 := by
    rw [CivilDate.daysBeforeYear_eq]
    rfl
  have hlow := @UniversalTime.le_year_ofSeconds_iff (-9999) n
  have hhigh := @UniversalTime.le_year_ofSeconds_iff 10000 n
  rw [hfirst] at hlow
  rw [hend] at hhigh
  unfold UniversalTime.HasSignedDigits
  omega

/-- The date of an instant in universal time is at that instant. -/
theorem universal?_eq_some (h : d.universal? = some u) :
    u.second = d.second ∧ u.nanosecond = d.nanosecond ∧ u.offset = 0 := by
  unfold universal? at h
  split at h
  · cases h
    exact ⟨rfl, rfl, rfl⟩
  · cases h

/-- An instant has a date in universal time exactly if its year there has at most four digits. -/
theorem isSome_universal?_iff :
    d.universal?.isSome ↔ (UniversalTime.ofSeconds d.second).HasSignedDigits := by
  rw [hasSignedDigits_iff]
  unfold universal?
  split
  · exact iff_of_true rfl ‹_›
  · exact iff_of_false Bool.false_ne_true ‹_›

/-- The calendar date in universal time is that of the instant. -/
theorem civil_of_offset (h : u.offset = 0) :
    u.civil = (UniversalTime.ofSeconds u.second).date := by
  rw [civil, h, Int.add_zero]
  rfl

/-- The second of the day in universal time is that of the instant. -/
theorem secondOfDay_of_offset (h : u.offset = 0) :
    u.secondOfDay = (u.second % 86400).toNat := by
  rw [secondOfDay, h, Int.add_zero]

/-- A date in universal time is written exactly if its year has four digits. -/
theorem isSome_written?_iff (h : u.offset = 0) :
    u.written?.isSome ↔ (UniversalTime.ofSeconds u.second).HasFourDigits := by
  unfold written? UniversalTime.HasFourDigits
  dsimp only
  rw [civil_of_offset h]
  split
  · exact iff_of_false Bool.false_ne_true (by omega)
  · exact iff_of_true rfl (by omega)

/-- A date is written exactly if its year in universal time has four digits. -/
theorem isSome_timestamp?_iff :
    d.timestamp?.isSome ↔ (UniversalTime.ofSeconds d.second).HasFourDigits := by
  unfold timestamp?
  cases hu : d.universal? with
  | none =>
    refine iff_of_false Bool.false_ne_true fun hdigits => ?_
    have hsome := isSome_universal?_iff.mpr hdigits.hasSignedDigits
    rw [hu] at hsome
    cases hsome
  | some u =>
    obtain ⟨hsecond, -, hoffset⟩ := universal?_eq_some hu
    rw [Option.bind_some, isSome_written?_iff hoffset, hsecond]

/-- What a date in universal time is written as is the timestamp of its instant. -/
theorem isTimestamp_of_written? (h : u.written? = some text) (hoffset : u.offset = 0) :
    IsTimestamp (UniversalTime.ofSeconds u.second) u.nanosecond text.toList := by
  obtain ⟨hpos, hyear⟩ := (isSome_written?_iff hoffset).mp (Option.isSome_of_eq_some h)
  obtain ⟨hmonth, hday⟩ := (UniversalTime.ofSeconds u.second).date_lt
  have hhour := (UniversalTime.ofSeconds u.second).hour_lt
  have hminute := (UniversalTime.ofSeconds u.second).minute_lt
  have hsecond := (UniversalTime.ofSeconds u.second).second_le
  refine ⟨_, _, _, _, _, _, _, ?_, hpos,
    Duration.isNumeral_padded (by decide) (by omega), Duration.isNumeral_padded (by decide) hmonth,
    Duration.isNumeral_padded (by decide) hday, Duration.isNumeral_padded (by decide) (by omega),
    Duration.isNumeral_padded (by decide) (by omega),
    Duration.isNumeral_padded (by decide) (by omega), isFraction_fractionDigits u.nanosecond_lt⟩
  unfold written? at h
  dsimp only at h
  rw [civil_of_offset hoffset, secondOfDay_of_offset hoffset] at h
  split at h
  · cases h
  · obtain rfl := Option.some.inj h
    rw [String.toList_ofList]
    rfl

/-- What a date is written as is the timestamp of its instant. -/
theorem isTimestamp_of_timestamp? (h : d.timestamp? = some text) :
    IsTimestamp (UniversalTime.ofSeconds d.second) d.nanosecond text.toList := by
  obtain ⟨u, hu, htext⟩ := Option.bind_eq_some_iff.mp h
  obtain ⟨hsecond, hnano, hoffset⟩ := universal?_eq_some hu
  rw [← hsecond, ← hnano]
  exact isTimestamp_of_written? htext hoffset

example : ({ second := -1, nanosecond := 500000000, offset := 3723 } : Date).timestamp? =
    some "1969-12-31T23:59:59.5Z" := by rfl

/-- The offset of a date does not matter to how it is written. -/
theorem timestamp?_congr (hsecond : e.second = d.second) (hnano : e.nanosecond = d.nanosecond) :
    e.timestamp? = d.timestamp? := by
  have huniversal : e.universal? = d.universal? := by
    simp only [universal?, hsecond, hnano]
  rw [timestamp?, timestamp?, huniversal]

/-- A timestamp tells an instant from all others. -/
theorem instant_of_timestamp? (hd : d.timestamp? = some text) (he : e.timestamp? = some text) :
    e.second = d.second ∧ e.nanosecond = d.nanosecond := by
  obtain ⟨hsecond, hfraction⟩ := Timestamp.read_of_isTimestamp (isTimestamp_of_timestamp? hd)
  obtain ⟨hsecond', hfraction'⟩ := Timestamp.read_of_isTimestamp (isTimestamp_of_timestamp? he)
  rw [UniversalTime.seconds_ofSeconds] at hsecond hsecond'
  exact ⟨hsecond'.symm.trans hsecond, hfraction'.symm.trans hfraction⟩

end Date

end AcmeClient
