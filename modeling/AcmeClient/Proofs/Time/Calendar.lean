import Mathlib.Algebra.Order.Ring.Int
import Mathlib.Tactic.IntervalCases
import AcmeClient.Time.Calendar

/-!
# Counting days

The number of a day is counted out: the days of the years before its year, of the months before its
month, and the days before it in its month. The two conversions of the calendar agree with the
count, for every date and for every number. A date is in the calendar once for each number.
-/

namespace AcmeClient.CivilDate

/-- The days of a year. -/
def yearLength (year : Int) : Int := if isLeapYear year then 366 else 365

/-- The sum of the first values of a function. -/
def total (f : Nat → Int) : Nat → Int
  | 0 => 0
  | n + 1 => total f n + f n

/-- The days from the start of 1970 to the start of a year, negative for the years before. -/
def daysBeforeYear (year : Int) : Int :=
  total (fun n => yearLength (1970 + n)) (year - 1970).toNat -
    total (fun n => yearLength (1969 - n)) (1970 - year).toNat

/-- The days from the start of a year to the start of a month. -/
def daysBeforeMonth (year : Int) (month : Nat) : Int :=
  total (fun n => monthLength year (n + 1)) (month - 1)

/-- The days from 1 January 1970 to a date, counted out. -/
def dayNumber (d : CivilDate) : Int :=
  daysBeforeYear d.year + daysBeforeMonth d.year d.month + (d.day - 1)

variable {d e : CivilDate} {year : Int}

section Years

/-- A leap year can be divided by four, but a century only by four hundred. -/
theorem isLeapYear_iff : isLeapYear year ↔ year % 4 = 0 ∧ (year % 100 ≠ 0 ∨ year % 400 = 0) := by
  simp [isLeapYear]

/-- No year is empty. -/
theorem yearLength_pos (year : Int) : 0 < yearLength year := by
  unfold yearLength
  split <;> decide

/-- A year starts after all the days of the year before. -/
theorem daysBeforeYear_succ (year : Int) :
    daysBeforeYear (year + 1) = daysBeforeYear year + yearLength year := by
  unfold daysBeforeYear
  by_cases h : 1970 ≤ year
  · obtain ⟨n, rfl⟩ := Int.le.dest h
    rw [show (1970 + (n : Int) + 1 - 1970).toNat = n + 1 by omega,
      show (1970 + (n : Int) - 1970).toNat = n by omega,
      show (1970 - (1970 + (n : Int) + 1)).toNat = 0 by omega,
      show (1970 - (1970 + (n : Int))).toNat = 0 by omega]
    simp only [total]
    omega
  · obtain ⟨n, rfl⟩ : ∃ n : Nat, year = 1969 - n := ⟨(1969 - year).toNat, by omega⟩
    rw [show (1969 - (n : Int) + 1 - 1970).toNat = 0 by omega,
      show (1969 - (n : Int) - 1970).toNat = 0 by omega,
      show (1970 - (1969 - (n : Int) + 1)).toNat = n by omega,
      show (1970 - (1969 - (n : Int))).toNat = n + 1 by omega]
    simp only [total]
    omega

/-- Later years start later. -/
theorem daysBeforeYear_le {year later : Int} (h : year ≤ later) :
    daysBeforeYear year ≤ daysBeforeYear later := by
  obtain ⟨n, rfl⟩ := Int.le.dest h
  induction n with
  | zero => simp
  | succ n ih =>
    have hsucc := daysBeforeYear_succ (year + n)
    have hpos := yearLength_pos (year + n)
    specialize ih (by omega)
    rw [Nat.cast_succ, ← add_assoc]
    omega

/-- The days of the years up to a year, for years that start in March. -/
def marchDays (year : Int) : Int := 365 * year + year / 4 - year / 100 + year / 400

/-- The year that starts in March of the year before has the length of the year it ends in. -/
theorem marchDays_eq (year : Int) : marchDays year = marchDays (year - 1) + yearLength year := by
  unfold marchDays yearLength
  split <;> rename_i h <;> rw [isLeapYear_iff] at h <;> omega

/-- The count of the years in closed form. -/
theorem daysBeforeYear_eq (year : Int) : daysBeforeYear year = marchDays (year - 1) - 719162 := by
  induction year using Int.inductionOn' (b := 1970) with
  | zero => rfl
  | succ k _ ih =>
    rw [daysBeforeYear_succ, ih, add_sub_cancel_right, marchDays_eq k]
    omega
  | pred k _ ih =>
    have hk := daysBeforeYear_succ (k - 1)
    rw [sub_add_cancel, ih, marchDays_eq (k - 1)] at hk
    omega

end Years

section Months

/-- A month starts after all the days of the month before. -/
theorem daysBeforeMonth_succ {month : Nat} (h : 1 ≤ month) :
    daysBeforeMonth year (month + 1) = daysBeforeMonth year month + monthLength year month := by
  obtain ⟨n, rfl⟩ := Nat.exists_eq_add_of_le' h
  rfl

/-- Later months start later. -/
theorem daysBeforeMonth_le (year : Int) {month later : Nat} (h : month ≤ later) :
    daysBeforeMonth year month ≤ daysBeforeMonth year later := by
  induction h with
  | refl => exact Int.le_refl _
  | step hle ih =>
    rename_i m
    by_cases hm : 1 ≤ m
    · rw [daysBeforeMonth_succ hm]
      omega
    · obtain rfl : m = 0 := by omega
      exact ih

/-- No month starts before the year. -/
theorem daysBeforeMonth_nonneg (year : Int) (month : Nat) : 0 ≤ daysBeforeMonth year month :=
  daysBeforeMonth_le year (Nat.zero_le month)

/-- The twelve months make up the year. -/
theorem daysBeforeMonth_thirteen (year : Int) : daysBeforeMonth year 13 = yearLength year := by
  by_cases h : isLeapYear year <;> simp [daysBeforeMonth, total, yearLength, monthLength, h]

end Months

/-- What a date of the calendar has to be. -/
theorem isValid_iff : d.isValid ↔
    (1 ≤ d.month ∧ d.month ≤ 12) ∧ 1 ≤ d.day ∧ d.day ≤ monthLength d.year d.month := by
  simp [isValid, and_assoc]

/-- A date lies within its year and within its month. -/
theorem dayNumber_bounds (h : d.isValid) :
    daysBeforeYear d.year + daysBeforeMonth d.year d.month ≤ d.dayNumber ∧
      d.dayNumber < daysBeforeYear d.year + daysBeforeMonth d.year (d.month + 1) ∧
      daysBeforeMonth d.year (d.month + 1) ≤ yearLength d.year := by
  obtain ⟨⟨hmonth, hdec⟩, hday, hlast⟩ := isValid_iff.mp h
  have hyear : daysBeforeMonth d.year (d.month + 1) ≤ daysBeforeMonth d.year 13 :=
    daysBeforeMonth_le d.year (by omega)
  rw [← daysBeforeMonth_thirteen]
  rw [daysBeforeMonth_succ hmonth] at hyear ⊢
  unfold dayNumber
  omega

/-- The year of a date is the one whose days have its number. -/
theorem year_eq_iff (h : d.isValid) : d.year = year ↔
    daysBeforeYear year ≤ d.dayNumber ∧ d.dayNumber < daysBeforeYear (year + 1) := by
  obtain ⟨hlo, hhi, hlen⟩ := dayNumber_bounds h
  have hmonth := daysBeforeMonth_nonneg d.year d.month
  have hsucc := daysBeforeYear_succ d.year
  constructor
  · rintro rfl
    omega
  · rintro ⟨hge, hlt⟩
    by_contra hne
    rcases lt_or_gt_of_ne hne with hlater | hlater
    · have := daysBeforeYear_le (show d.year + 1 ≤ year by omega)
      omega
    · have := daysBeforeYear_le (show year + 1 ≤ d.year by omega)
      omega

/-- The dates from a year on are those whose days come after the start of the year. -/
theorem le_year_iff (h : d.isValid) : year ≤ d.year ↔ daysBeforeYear year ≤ d.dayNumber := by
  obtain ⟨hge, hlt⟩ := (year_eq_iff h).mp rfl
  constructor
  · intro hle
    exact (daysBeforeYear_le hle).trans hge
  · intro hle
    by_contra hearlier
    have := daysBeforeYear_le (show d.year + 1 ≤ year by omega)
    omega

/-- The dates of the calendar have different numbers. -/
theorem dayNumber_inj (hd : d.isValid) (he : e.isValid) (h : d.dayNumber = e.dayNumber) :
    d = e := by
  obtain ⟨hlo, hhi, -⟩ := dayNumber_bounds hd
  obtain ⟨hlo', hhi', -⟩ := dayNumber_bounds he
  have hyear : d.year = e.year := by
    rw [year_eq_iff hd, h]
    exact (year_eq_iff he).mp rfl
  have hmonth : d.month = e.month := by
    rw [← hyear] at hlo' hhi'
    apply le_antisymm
    · by_contra hlt
      have := daysBeforeMonth_le d.year (show e.month + 1 ≤ d.month by omega)
      omega
    · by_contra hlt
      have := daysBeforeMonth_le d.year (show d.month + 1 ≤ e.month by omega)
      omega
  have hday : d.day = e.day := by
    unfold dayNumber at h
    rw [hyear, hmonth] at h
    omega
  cases d
  cases e
  simp_all

section Conversions

/-- The months in closed form; counted from March, they repeat after five. -/
theorem daysBeforeMonth_eq {month : Nat} (hlo : 1 ≤ month) (hhi : month ≤ 12) :
    daysBeforeMonth year month = (153 * ((month + 9) % 12 : Int) + 2) / 5 +
      if month ≤ 2 then -306 else yearLength year - 306 := by
  unfold daysBeforeMonth monthLength yearLength
  interval_cases month <;> simp [total] <;> split <;> rfl

/-- The number of a date in years that start in March, where the leap day comes last. -/
theorem toDays_eq_marchDays (d : CivilDate) : d.toDays =
    marchDays (if d.month ≤ 2 then d.year - 1 else d.year) +
      (153 * ((d.month + 9) % 12 : Int) + 2) / 5 + d.day - 719469 := by
  unfold toDays marchDays
  generalize (if d.month ≤ 2 then d.year - 1 else d.year) = y
  dsimp only
  omega

/-- The conversion of a date is its count. -/
theorem toDays_eq_dayNumber (h : d.isValid) : d.toDays = d.dayNumber := by
  obtain ⟨⟨hlo, hhi⟩, -⟩ := isValid_iff.mp h
  have hyear := marchDays_eq d.year
  rw [toDays_eq_marchDays, dayNumber, daysBeforeYear_eq, daysBeforeMonth_eq hlo hhi]
  split <;> omega

/-- The date of a day of a year that starts in March. -/
def ofMarch (year day : Int) : CivilDate :=
  let monthFromMarch := (5 * day + 2) / 153
  let month := if monthFromMarch < 10 then monthFromMarch + 3 else monthFromMarch - 9
  { year := year + (if month ≤ 2 then 1 else 0), month := month.toNat,
    day := (day - (153 * monthFromMarch + 2) / 5 + 1).toNat }

/-- Whether a day of the cycle of four hundred years is a day of some year: after some centuries,
some four years of the century, and some years of these. Only the last year of four has a leap day,
and not the last one of a century, but for the last century. -/
structure IsDayOf (a b c d day : Int) : Prop where
  centuries : 0 ≤ a ∧ a < 4
  fours : 0 ≤ b ∧ b < 25
  years : 0 ≤ c ∧ c < 4
  days : 0 ≤ d ∧ d ≤ 365
  leap : d = 365 → c = 3 ∧ (b < 24 ∨ a = 3)
  sum : day = 36524 * a + 1461 * b + 365 * c + d

/-- The years before a day of the cycle: one day in 1460 and in 146096 is a leap day, but not one
in 36524. -/
theorem yearOfEra_eq {a b c d day : Int} (h : IsDayOf a b c d day) :
    (day - day / 1460 + day / 36524 - day / 146096) / 365 = 100 * a + 4 * b + c := by
  obtain ⟨ha, hb, hc, hd, hleap, hday⟩ := h
  have hlast : day < 36524 * (a + 1) ∨ day = 146096 := by
    by_cases h : d = 365
    · obtain ⟨rfl, h' | h'⟩ := hleap h <;> omega
    · omega
  have hcentury : day / 36524 - day / 146096 = a := by
    rcases hlast with h | rfl
    · have hq : day / 36524 = a := by
        apply le_antisymm <;> omega
      omega
    · omega
  have hfour : day / 1460 = 25 * a + b + if 1460 ≤ 24 * a + b + 365 * c + d then 1 else 0 := by
    split <;> omega
  have hsum : day - day / 1460 + day / 36524 - day / 146096 = 365 * (100 * a + 4 * b + c) +
      (d - if 1460 ≤ 24 * a + b + 365 * c + d then 1 else 0) := by omega
  rw [hsum]
  split <;> omega

/-- Every day of the cycle is a day of some year. -/
theorem exists_isDayOf {day : Int} (h : 0 ≤ day ∧ day < 146097) :
    ∃ a b c d, IsDayOf a b c d day := by
  -- the last century and the last year of four may have one day more than the others
  obtain ⟨a, ha, r, hr, hlast, hday⟩ : ∃ a : Int, (0 ≤ a ∧ a < 4) ∧ ∃ r : Int,
      (0 ≤ r ∧ r ≤ 36524) ∧ (r = 36524 → a = 3) ∧ day = 36524 * a + r := by
    by_cases hend : day = 146096
    · exact ⟨3, by omega, 36524, by omega⟩
    · exact ⟨day / 36524, by omega, day % 36524, by omega⟩
  obtain ⟨b, hb, s, hs, hr'⟩ : ∃ b : Int, (0 ≤ b ∧ b < 25) ∧ ∃ s : Int,
      (0 ≤ s ∧ s < 1461) ∧ r = 1461 * b + s :=
    ⟨r / 1461, by omega, r % 1461, by omega⟩
  obtain ⟨c, hc, d, hd, hleap, hs'⟩ : ∃ c : Int, (0 ≤ c ∧ c < 4) ∧ ∃ d : Int,
      (0 ≤ d ∧ d ≤ 365) ∧ (d = 365 → c = 3) ∧ s = 365 * c + d := by
    by_cases hend : s = 1460
    · exact ⟨3, by omega, 365, by omega⟩
    · exact ⟨s / 365, by omega, s % 365, by omega⟩
  exact ⟨a, b, c, d, ha, hb, hc, hd, fun h => ⟨hleap h, by omega⟩, by omega⟩

/-- Every number is that of a day of a year that starts in March, and its date is found there. -/
theorem exists_ofDays_eq_ofMarch (n : Int) : ∃ year day,
    (0 ≤ day ∧ day < yearLength (year + 1)) ∧ n = marchDays year + day - 719468 ∧
      ofDays n = ofMarch year day := by
  have hn : n = (n + 719468) / 146097 * 146097 + (n + 719468) % 146097 - 719468 := by omega
  have hrest : 0 ≤ (n + 719468) % 146097 ∧ (n + 719468) % 146097 < 146097 := by omega
  dsimp only [ofDays]
  generalize (n + 719468) / 146097 = era at *
  generalize (n + 719468) % 146097 = rest at *
  obtain ⟨a, b, c, d, hof⟩ := exists_isDayOf hrest
  have ⟨ha, hb, hc, hd, hleap, hday⟩ := hof
  have hfour : (100 * a + 4 * b + c) / 4 = 25 * a + b := by omega
  have hcentury : (100 * a + 4 * b + c) / 100 = a := by omega
  have hdoy : rest - (365 * (100 * a + 4 * b + c) + (100 * a + 4 * b + c) / 4 -
      (100 * a + 4 * b + c) / 100) = d := by
    rw [hfour, hcentury]
    omega
  refine ⟨100 * a + 4 * b + c + era * 400, d, ⟨hd.1, ?_⟩, ?_, ?_⟩
  · unfold yearLength
    by_cases hlast : d = 365
    · obtain ⟨rfl, hba⟩ := hleap hlast
      rw [if_pos (isLeapYear_iff.mpr (by omega))]
      omega
    · split <;> omega
  · have hera : (100 * a + 4 * b + c + era * 400) / 400 = era := by omega
    have hera4 : (100 * a + 4 * b + c + era * 400) / 4 = 25 * a + b + era * 100 := by omega
    have hera100 : (100 * a + 4 * b + c + era * 400) / 100 = a + era * 4 := by omega
    unfold marchDays
    rw [hera, hera4, hera100]
    omega
  · rw [yearOfEra_eq hof, hdoy]
    rfl

/-- The day that is found in a year that starts in March is in the calendar, with its number. -/
theorem isValid_ofMarch {day : Int} (h : 0 ≤ day ∧ day < yearLength (year + 1)) :
    (ofMarch year day).isValid ∧ (ofMarch year day).toDays = marchDays year + day - 719468 := by
  have hlen : day < 366 ∧ (day = 365 → isLeapYear (year + 1)) := by
    unfold yearLength at h
    split at h <;> rename_i hleap
    · exact ⟨h.2, fun _ => hleap⟩
    · omega
  obtain ⟨m, hm⟩ : ∃ m : Int, m = (5 * day + 2) / 153 := ⟨_, rfl⟩
  have hlo : 0 ≤ m := by omega
  have hhi : m ≤ 11 := by omega
  rw [isValid_iff, toDays_eq_marchDays]
  unfold ofMarch monthLength
  rw [← hm]
  clear h
  -- one case for each month from March on; only the last one depends on the year
  interval_cases m <;> norm_num <;> constructor <;> try omega
  by_cases hlast : day = 365
  · rw [if_pos (hlen.2 hlast)]
    omega
  · split <;> omega

/-- Every number has a date, which is in the calendar. -/
theorem isValid_ofDays (n : Int) : (ofDays n).isValid := by
  obtain ⟨year, day, hday, -, hdate⟩ := exists_ofDays_eq_ofMarch n
  rw [hdate]
  exact (isValid_ofMarch hday).1

/-- The date of a number has that number. -/
theorem dayNumber_ofDays (n : Int) : (ofDays n).dayNumber = n := by
  obtain ⟨year, day, hday, hn, hdate⟩ := exists_ofDays_eq_ofMarch n
  rw [← toDays_eq_dayNumber (isValid_ofDays n), hdate, (isValid_ofMarch hday).2, hn]

/-- The date of a number is the date of the calendar with that number. -/
theorem ofDays_eq_iff {n : Int} : ofDays n = d ↔ d.isValid ∧ d.dayNumber = n := by
  constructor
  · rintro rfl
    exact ⟨isValid_ofDays n, dayNumber_ofDays n⟩
  · rintro ⟨hd, hn⟩
    exact dayNumber_inj (isValid_ofDays n) hd ((dayNumber_ofDays n).trans hn.symm)

end Conversions

end AcmeClient.CivilDate
