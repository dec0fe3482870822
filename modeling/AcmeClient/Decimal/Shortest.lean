import AcmeClient.Decimal.Real

/-!
# Shortest decimal text

A number of double precision is written with the fewest digits that round back to it, and among
those with the nearest.
-/

namespace AcmeClient.Real

/-- The number of decimal digits. -/
def digitCount (n : Nat) : Nat := (Nat.toDigits 10 n).length

/-- The exponent of the leading decimal digit of a positive fraction. -/
def leadingExponent (num den : Nat) : Int :=
  let p : Int := (digitCount num : Int) - digitCount den
  let isBelow := if 0 ≤ p then num < den * Nat.pow 10 p.toNat else num * Nat.pow 10 (-p).toNat < den
  if isBelow then p - 1 else p

/-- The interval of fractions that round to a number, in quarters of its last place: its ends,
and whether they belong to it. -/
def roundingInterval (x : Real) : Nat × Nat × Bool :=
  let below := if x.mantissa = Nat.pow 2 52 ∧ -1074 < x.exponent then 1 else 2
  (4 * x.mantissa - below, 4 * x.mantissa + 2, x.mantissa % 2 = 0)

/-- The nearest number of `count` digits that rounds to `x`: the digits and the exponent of the
last one. -/
def withDigits? (x : Real) (lead : Int) (count : Nat) : Option (Nat × Int) :=
  let last := lead - count + 1
  -- One quarter of the last binary place, in units of the last decimal place.
  let (unit, per) := fraction 1 (x.exponent - 2)
  let (unit, per) :=
    if 0 ≤ last then (unit, per * Nat.pow 10 last.toNat) else (unit * Nat.pow 10 (-last).toNat, per)
  let (lo, hi, isClosed) := x.roundingInterval
  let value := 4 * x.mantissa * unit
  let fits (c : Nat) : Bool :=
    if isClosed then lo * unit ≤ c * per && c * per ≤ hi * unit
    else lo * unit < c * per && c * per < hi * unit
  let down := value / per
  let up := down + 1
  match fits down, fits up with
  | false, false => none
  | true, false => some (down, last)
  | false, true => some (up, last)
  | true, true =>
    let rest := value - down * per
    if 2 * rest < per ∨ (2 * rest = per ∧ down % 2 = 0) then some (down, last) else some (up, last)

/-- The shortest digits of a positive number and the exponent of the last one. -/
def shortest (x : Real) : Nat × Int :=
  let (num, den) := fraction x.mantissa x.exponent
  let lead := leadingExponent num den
  ((List.range 17).findSome? fun n => x.withDigits? lead (n + 1)).getD (0, 0)

/-- Removes the zeros at the end of digits. -/
def stripZeros (digits : List Char) : List Char := (digits.reverse.dropWhile (· = '0')).reverse

/-- The text of a magnitude: positional from 10^-5 to below 10^16, else scientific. -/
def magnitudeChars (x : Real) : List Char :=
  if x.mantissa = 0 then ['0', '.', '0']
  else
    let (n, last) := x.shortest
    let all := Nat.toDigits 10 n
    let digits := stripZeros all
    let lead : Int := last + all.length - 1
    if -5 ≤ lead ∧ lead < 16 then
      if lead < 0 then
        ['0', '.'] ++ List.replicate ((-lead).toNat - 1) '0' ++ digits
      else
        let whole := lead.toNat + 1
        let padded := digits ++ List.replicate (whole - digits.length) '0'
        let tail := padded.drop whole
        padded.take whole ++ '.' :: (if tail = [] then ['0'] else tail)
    else
      let tail := digits.drop 1
      digits.take 1 ++ (if tail = [] then [] else '.' :: tail) ++
        'e' :: (if lead < 0 then '-' else '+') :: Nat.toDigits 10 lead.natAbs

/-- The text of a number. -/
def toChars (x : Real) : List Char :=
  if x.isNegative then '-' :: x.magnitudeChars else x.magnitudeChars

end AcmeClient.Real
