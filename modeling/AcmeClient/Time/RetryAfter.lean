import AcmeClient.Text.Blank
import AcmeClient.Time.Date

/-!
# Requested waits

A server asks for a wait either in seconds or by the date before which it does not want to be
asked again. A date in the past asks for no wait.
-/

namespace AcmeClient.RetryAfter

/-- The value of decimal digits. -/
def digitsValue (cs : List Char) : Nat := cs.foldl (fun n c => n * 10 + (c.toNat - 48)) 0

/-- A number of seconds of 64 bits; a plus sign may precede it. -/
def seconds? (cs : List Char) : Option Nat :=
  let digits := match cs with
    | '+' :: rest => rest
    | _ => cs
  if digits = [] ∨ !digits.all (·.isDigit) then none
  else
    let n := digitsValue digits
    if n < Nat.pow 2 64 then some n else none

/-- The names of the days. -/
def weekdays : List String := ["Mon", "Tue", "Wed", "Thu", "Fri", "Sat", "Sun"]

/-- The names of the months. -/
def months : List String :=
  ["Jan", "Feb", "Mar", "Apr", "May", "Jun", "Jul", "Aug", "Sep", "Oct", "Nov", "Dec"]

/-- Exactly some digits in front. -/
def digits? (count : Nat) (cs : List Char) : Option (Nat × List Char) :=
  let digits := cs.take count
  if digits.length = count ∧ digits.all (·.isDigit) then some (digitsValue digits, cs.drop count)
  else none

/-- The position of the name in front, from zero. -/
def name? (names : List String) (cs : List Char) : Option (Nat × List Char) :=
  (names.findIdx? fun n => n.toList = cs.take 3).map (·, cs.drop 3)

/-- A year of four digits with a possible sign. -/
def year? (cs : List Char) : Option (Int × List Char) :=
  match cs with
  | '-' :: rest => (digits? 4 rest).map fun (n, rest) => (-(n : Int), rest)
  | '+' :: rest => (digits? 4 rest).map fun (n, rest) => ((n : Int), rest)
  | _ => (digits? 4 cs).map fun (n, rest) => ((n : Int), rest)

/-- The second of a date such as `Sun, 06 Nov 1994 08:49:37 GMT`. -/
def httpDate? (cs : List Char) : Option Int := do
  let (_, cs) ← name? weekdays cs
  let cs ← Text.after? [',', ' '] cs
  let (day, cs) ← digits? 2 cs
  let cs ← Text.after? [' '] cs
  let (month, cs) ← name? months cs
  let cs ← Text.after? [' '] cs
  let (year, cs) ← year? cs
  let cs ← Text.after? [' '] cs
  let (hour, cs) ← digits? 2 cs
  let cs ← Text.after? [':'] cs
  let (minute, cs) ← digits? 2 cs
  let cs ← Text.after? [':'] cs
  let (second, cs) ← digits? 2 cs
  if cs ≠ " GMT".toList then none
  let date : CivilDate := { year, month := month + 1, day }
  if !date.isValid ∨ 23 < hour ∨ 59 < minute ∨ 59 < second then none
  some (date.toDays * 86400 + hour * 3600 + minute * 60 + second)

/-- The wait that a header value asks for, at a time in nanoseconds from the start of 1970. -/
def parse? (now : Int) (value : String) : Option Duration :=
  let cs := Text.trimChars value.toList
  match seconds? cs with
  | some n => some (.ofSeconds n)
  | none => (httpDate? cs).map fun second => .ofNanoseconds (second * 1000000000 - now).toNat

end AcmeClient.RetryAfter
