import AcmeClient.Time.Calendar
import AcmeClient.Time.Duration

/-!
# Dates

A date is an instant, in seconds and nanoseconds from the start of 1970, seen at an offset from
universal time, where it has a year from -9999 to 9999. Requests carry the instant in universal
time with the fraction's trailing zeros removed; years outside 0 to 9999 cannot be written, and the
instant may even be outside the years that there are in universal time.
-/

namespace AcmeClient

/-- The first second of the year -9999. -/
def Date.firstSecond : Int := -377705116800

/-- The last second of the year 9999. -/
def Date.lastSecond : Int := 253402300799

/-- An instant seen at an offset in seconds, which stays below 26 hours. -/
structure Date where
  second : Int
  nanosecond : Nat := 0
  offset : Int := 0
  nanosecond_lt : nanosecond < 1000000000 := by decide
  offset_lt : offset.natAbs < 93600 := by decide
  inCalendar : Date.firstSecond ≤ second + offset ∧ second + offset ≤ Date.lastSecond := by decide
  deriving DecidableEq, Repr

namespace Date

/-- The calendar date at the date's offset. -/
def civil (d : Date) : CivilDate := .ofDays ((d.second + d.offset) / 86400)

/-- The second of the day at the date's offset. -/
def secondOfDay (d : Date) : Nat := ((d.second + d.offset) % 86400).toNat

/-- The same instant in universal time, if it has a year there. -/
def universal? (d : Date) : Option Date :=
  if h : firstSecond ≤ d.second ∧ d.second ≤ lastSecond then
    some { second := d.second, nanosecond := d.nanosecond, nanosecond_lt := d.nanosecond_lt
           inCalendar := by rwa [Int.add_zero] }
  else none

/-- Two digits. -/
def two (n : Nat) : List Char := Duration.padded 2 n

/-- The digits of a fraction of a second, without zeros at the end. -/
def fractionDigits (nanosecond : Nat) : List Char :=
  ((Duration.padded 9 nanosecond).reverse.dropWhile (· = '0')).reverse

/-- A date in universal time as requests carry it. -/
def written? (u : Date) : Option String :=
  let civil := u.civil
  let second := u.secondOfDay
  if civil.year < 0 ∨ 9999 < civil.year then none
  else
    let fraction := if u.nanosecond = 0 then [] else '.' :: fractionDigits u.nanosecond
    some <| .ofList <|
      Duration.padded 4 civil.year.toNat ++ '-' :: two civil.month ++ '-' :: two civil.day ++
        'T' :: two (second / 3600) ++ ':' :: two (second / 60 % 60) ++ ':' :: two (second % 60) ++
        fraction ++ ['Z']

/-- The instant as requests carry it. -/
def timestamp? (d : Date) : Option String := d.universal?.bind written?

/-- The year as it is shown; outside four digits it has a sign. -/
def yearChars (year : Int) : List Char :=
  if year < 0 then '-' :: Duration.padded 4 year.natAbs
  else if 9999 < year then '+' :: Duration.padded 4 year.natAbs
  else Duration.padded 4 year.natAbs

/-- The date as messages show it. -/
def toText (d : Date) : String :=
  let civil := d.civil
  let second := d.secondOfDay
  let fraction := if d.nanosecond = 0 then ['0'] else fractionDigits d.nanosecond
  let offset := d.offset.natAbs
  .ofList <|
    yearChars civil.year ++ '-' :: two civil.month ++ '-' :: two civil.day ++
      ' ' :: Nat.toDigits 10 (second / 3600) ++ ':' :: two (second / 60 % 60) ++
      ':' :: two (second % 60) ++ '.' :: fraction ++
      ' ' :: (if d.offset < 0 then '-' else '+') :: two (offset / 3600) ++
      ':' :: two (offset / 60 % 60) ++ ':' :: two (offset % 60)

end Date

end AcmeClient
