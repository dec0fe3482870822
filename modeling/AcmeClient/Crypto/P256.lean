import AcmeClient.Crypto.Octets

/-!
# The curve P-256

Points satisfy y² = x³ - 3x + b over the field of p elements; the generator g has prime order n.
Multiples are computed with three coordinates, where (x, y, z) stands for (x/z², y/z³), and
brought back to two at the end.
-/

namespace AcmeClient.P256

/-- The order of the field. -/
def p : Nat := 0xffffffff00000001000000000000000000000000ffffffffffffffffffffffff

/-- The order of the generator. -/
def n : Nat := 0xffffffff00000000ffffffffffffffffbce6faada7179e84f3b9cac2fc632551

/-- The constant of the curve. -/
def b : Nat := 0x5ac635d8aa3a93e7b3ebbd55769886bc651d06b0cc53b0f63bce3c3e27d2604b

/-- A point in two coordinates. -/
structure Point where
  x : Nat
  y : Nat
  deriving DecidableEq, Repr

/-- The generator. -/
def generator : Point where
  x := 0x6b17d1f2e12c4247f8bce6e563a440f277037d812deb33a0f4a13945d898c296
  y := 0x4fe342e2fe1a7f9b8ee7eb4a7c0f9e162bce33576b315ececbb6406837bf51f5

/-- A power modulo `m`; the first argument bounds the bits of the exponent. -/
def powModFrom (m : Nat) : Nat → Nat → Nat → Nat → Nat
  | 0, _, _, result => result
  | bits + 1, base, e, result =>
    if e = 0 then result
    else
      let result := if e % 2 = 1 then result * base % m else result
      powModFrom m bits (base * base % m) (e / 2) result

/-- A power modulo `m`. -/
def powMod (m base e : Nat) : Nat := powModFrom m (e.log2 + 1) (base % m) e (1 % m)

/-- The inverse modulo a prime. -/
def inverse (m x : Nat) : Nat := powMod m x (m - 2)

/-- The difference in the field. -/
def sub (x y : Nat) : Nat := (x + (p - y)) % p

/-- A point in three coordinates; z = 0 stands for the point at infinity. -/
structure Projective where
  x : Nat
  y : Nat
  z : Nat

/-- The point at infinity. -/
def infinity : Projective := ⟨1, 1, 0⟩

/-- Twice a point. -/
def double (q : Projective) : Projective :=
  if q.z = 0 then infinity
  else
    let zz := q.z * q.z % p
    let yy := q.y * q.y % p
    let s := 4 * q.x * yy % p
    let m := 3 * (sub q.x zz * ((q.x + zz) % p) % p) % p
    let x := sub (m * m % p) (2 * s % p)
    let y := sub (m * sub s x % p) (8 * yy * yy % p)
    ⟨x, y, 2 * q.y * q.z % p⟩

/-- The sum of two points. -/
def add (q r : Projective) : Projective :=
  if q.z = 0 then r
  else if r.z = 0 then q
  else
    let zz1 := q.z * q.z % p
    let zz2 := r.z * r.z % p
    let u1 := q.x * zz2 % p
    let u2 := r.x * zz1 % p
    let s1 := q.y * zz2 * r.z % p
    let s2 := r.y * zz1 * q.z % p
    let h := sub u2 u1
    let t := sub s2 s1
    if h = 0 then if t = 0 then double q else infinity
    else
      let hh := h * h % p
      let hhh := h * hh % p
      let v := u1 * hh % p
      let x := sub (sub (t * t % p) hhh) (2 * v % p)
      let y := sub (t * sub v x % p) (s1 * hhh % p)
      ⟨x, y, q.z * r.z * h % p⟩

/-- A multiple of a point, bit by bit from the least significant one. -/
def multiplyFrom : Nat → Nat → Projective → Projective → Projective
  | 0, _, _, sum => sum
  | bits + 1, k, q, sum =>
    multiplyFrom bits (k / 2) (double q) (if k % 2 = 1 then add sum q else sum)

/-- The point in two coordinates; the point at infinity becomes the origin. -/
def Projective.toPoint (q : Projective) : Point :=
  let i := inverse p q.z
  let ii := i * i % p
  ⟨q.x * ii % p, q.y * ii * i % p⟩

/-- A multiple of a point. -/
def multiply (k : Nat) (q : Point) : Point :=
  (multiplyFrom 256 k ⟨q.x, q.y, 1⟩ infinity).toPoint

/-- The octets of a point: both coordinates after a mark. -/
def Point.octets (q : Point) : Bytes := 0x04 :: Octets.fixed 32 q.x ++ Octets.fixed 32 q.y

/-- The octets of a point by its first coordinate and the parity of the second. -/
def Point.compressed (q : Point) : Bytes :=
  (if q.y % 2 = 0 then 0x02 else 0x03) :: Octets.fixed 32 q.x

end AcmeClient.P256
