/-!
# Double-precision numbers

A number of double precision is a mantissa below 2^53 times a power of two from 2^-1074 to
2^971, with a sign. Arithmetic is exact and then rounded to the nearest such number, ties to an
even mantissa.
-/

namespace AcmeClient

/-- A finite number of double precision. -/
structure Real where
  isNegative : Bool := false
  mantissa : Nat
  exponent : Int
  deriving DecidableEq, Repr

namespace Real

/-- A numerator and a denominator for `n · 2^e`. -/
def fraction (n : Nat) (e : Int) : Nat × Nat :=
  if 0 ≤ e then (n * Nat.pow 2 e.toNat, 1) else (n, Nat.pow 2 (-e).toNat)

/-- The exponent of the mantissa that represents a positive fraction best. -/
def exponentOf (num den : Nat) : Int :=
  let e : Int := (num.log2 : Int) - den.log2 - 52
  let (n, d) := if 0 ≤ e then (num, den * Nat.pow 2 e.toNat) else (num * Nat.pow 2 (-e).toNat, den)
  max (if n < d * Nat.pow 2 52 then e - 1 else e) (-1074)

/-- The nearest number to a fraction, if it is not too large. -/
def round (num den : Nat) : Option Real :=
  if num = 0 then some { mantissa := 0, exponent := -1074 }
  else
    let e := exponentOf num den
    let (n, d) := if 0 ≤ e then (num, den * Nat.pow 2 e.toNat) else (num * Nat.pow 2 (-e).toNat, den)
    let q := n / d
    let r := n % d
    let q := if d < 2 * r ∨ (2 * r = d ∧ q % 2 = 1) then q + 1 else q
    let (q, e) := if q = Nat.pow 2 53 then (Nat.pow 2 52, e + 1) else (q, e)
    if 971 < e then none else some { mantissa := q, exponent := e }

/-- The nearest number to a natural number. -/
def ofNat? (n : Nat) : Option Real := round n 1

/-- The product with a power of ten, the power and the product both rounded. -/
def mulPowTen (x : Real) (k : Nat) : Option Real := do
  let p ← round (Nat.pow 10 k) 1
  let (num, den) := fraction (x.mantissa * p.mantissa) (x.exponent + p.exponent)
  round num den

/-- The quotient by a power of ten, the power and the quotient both rounded. -/
def divPowTen (x : Real) (k : Nat) : Option Real := do
  let p ← round (Nat.pow 10 k) 1
  let (num, den) := fraction x.mantissa (x.exponent - p.exponent)
  round num (den * p.mantissa)

/-- The number times a power of ten, scaled in steps that double precision can hold; none if it
is too large. Two steps down leave nothing of a number below 2^64, so the first argument, which
bounds the steps, need not be large. -/
def scaleFrom : Nat → Real → Int → Option Real
  | 0, x, _ => some x
  | steps + 1, x, k =>
    if k.natAbs ≤ 308 then if 0 ≤ k then x.mulPowTen k.toNat else x.divPowTen k.natAbs
    else if x.mantissa = 0 then some x
    else if 0 ≤ k then none
    else (x.divPowTen 308).bind fun y => scaleFrom steps y (k + 308)

/-- The number times a power of ten; none if it is too large. -/
def scale (x : Real) (k : Int) : Option Real := scaleFrom 4 x k

end Real

end AcmeClient
