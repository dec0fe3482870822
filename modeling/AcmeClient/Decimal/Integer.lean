/-!
# Integers in decimal

An integer is written with the fewest digits; a negative one has a sign.
-/

namespace AcmeClient.Decimal

/-- The decimal digits of an integer with its sign. -/
def integerChars (n : Int) : List Char :=
  if n < 0 then '-' :: Nat.toDigits 10 n.natAbs else Nat.toDigits 10 n.natAbs

end AcmeClient.Decimal
