/-!
# Durations

A duration is a number of nanoseconds up to 2^64 seconds. Multiplication stops at the largest
duration.
-/

namespace AcmeClient

/-- The nanoseconds of a second. -/
def Duration.perSecond : Nat := 1000000000

/-- The nanoseconds of 2^64 seconds. -/
def Duration.limit : Nat := Nat.pow 2 64 * perSecond

/-- A span of time. -/
structure Duration where
  nanoseconds : Nat
  inRange : nanoseconds < Duration.limit := by decide
  deriving DecidableEq, Repr

namespace Duration

/-- The longest duration. -/
def longest : Duration := ⟨limit - 1, by decide⟩

/-- The duration of some nanoseconds, or the longest one if there are more. -/
def ofNanoseconds (n : Nat) : Duration := if h : n < limit then ⟨n, h⟩ else longest

/-- The duration of some seconds. -/
def ofSeconds (n : Nat) : Duration := ofNanoseconds (n * perSecond)

/-- No time. -/
def zero : Duration := ⟨0, by decide⟩

/-- The whole seconds. -/
def seconds (d : Duration) : Nat := d.nanoseconds / perSecond

/-- The product with a factor, or the longest duration. -/
def times (d : Duration) (factor : Nat) : Duration := ofNanoseconds (d.nanoseconds * factor)

/-- The shorter of two durations. -/
def shorter (a b : Duration) : Duration := if b.nanoseconds < a.nanoseconds then b else a

/-- A duration that is not the longest one is not clipped. -/
theorem nanoseconds_ofNanoseconds {n : Nat} (h : n < limit) :
    (ofNanoseconds n).nanoseconds = n := by
  unfold ofNanoseconds
  rw [dif_pos h]

/-- Clipping takes the minimum with the longest duration. -/
theorem nanoseconds_ofNanoseconds_eq_min (n : Nat) :
    (ofNanoseconds n).nanoseconds = min n longest.nanoseconds := by
  unfold ofNanoseconds
  split
  · have : n ≤ longest.nanoseconds := Nat.le_sub_one_of_lt ‹_›
    exact (Nat.min_eq_left this).symm
  · have : longest.nanoseconds ≤ n := Nat.le_of_lt (Nat.lt_of_lt_of_le longest.inRange (by omega))
    exact (Nat.min_eq_right this).symm

/-- The nanoseconds of the shorter duration. -/
theorem nanoseconds_shorter (a b : Duration) :
    (shorter a b).nanoseconds = min a.nanoseconds b.nanoseconds := by
  unfold shorter
  split <;> omega

/-- A number with zeros in front up to a width. -/
def padded (width n : Nat) : List Char :=
  let digits := Nat.toDigits 10 n
  List.replicate (width - digits.length) '0' ++ digits

/-- Seconds with nine places. -/
def toText (d : Duration) : String :=
  .ofList (Nat.toDigits 10 d.seconds ++ '.' :: padded 9 (d.nanoseconds % perSecond))

end Duration

end AcmeClient
