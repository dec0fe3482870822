/-!
# Punycode

A label with characters outside ASCII is written as its ASCII characters, a hyphen, and digits
that say which characters to insert where. The state of both directions is the code point being
inserted, the distance to the next insertion and a bias that adapts to the distances seen.
-/

namespace AcmeClient.Idna.Punycode

/-- The largest number that a reader keeps. -/
def limit : Nat := 4294967295

/-- The threshold of a digit at a position that counts in steps of 36. -/
def threshold (bias k : Nat) : Nat := if k ≤ bias then 1 else if bias + 26 ≤ k then 26 else k - bias

/-- A threshold is a digit above zero. -/
theorem one_le_threshold (bias k : Nat) : 1 ≤ threshold bias k := by
  unfold threshold
  split
  · exact Nat.le_refl 1
  · split <;> omega

/-- Scales a distance down while it is large. -/
def adaptFrom (delta k : Nat) : Nat :=
  if 455 < delta then adaptFrom (delta / 35) (k + 36) else k + 36 * delta / (delta + 38)
termination_by delta

/-- The bias after an insertion. -/
def adapt (delta points : Nat) (isFirst : Bool) : Nat :=
  let scaled := if isFirst then delta / 700 else delta / 2
  adaptFrom (scaled + scaled / points) 0

/-- The character of a digit below 36. -/
def digit (n : Nat) : Char := if n < 26 then Char.ofNat (97 + n) else Char.ofNat (22 + n)

/-- The value of a digit. -/
def digitValue? (c : Char) : Option Nat :=
  if 'a' ≤ c ∧ c ≤ 'z' then some (c.toNat - 97)
  else if 'A' ≤ c ∧ c ≤ 'Z' then some (c.toNat - 65)
  else if '0' ≤ c ∧ c ≤ '9' then some (c.toNat - 22)
  else none

/-- The digits of a distance, least significant first. -/
def number (bias q k : Nat) : List Char :=
  let t := threshold bias k
  if t ≤ q ∧ t < 36 then digit (t + (q - t) % (36 - t)) :: number bias ((q - t) / (36 - t)) (k + 36)
  else [digit q]
termination_by q
decreasing_by
  have ht := one_le_threshold bias k
  exact Nat.lt_of_le_of_lt (Nat.div_le_self _ _) (by omega)

/-- The state between insertions. -/
structure State where
  delta : Nat
  bias : Nat
  handled : Nat
  isFirst : Bool

/-- Passes one character of the label while `point` is inserted. -/
def State.pass (point : Nat) (s : State × List Char) (c : Char) : State × List Char :=
  let (s, out) := s
  if c.toNat < point then ({ s with delta := s.delta + 1 }, out)
  else if c.toNat = point then
    ({ delta := 0, bias := adapt s.delta (s.handled + 1) s.isFirst, handled := s.handled + 1,
       isFirst := false },
      out ++ number s.bias s.delta 36)
  else (s, out)

/-- Inserts the remaining code points in increasing order. -/
def insertions (label : List Char) : List Nat → Nat → State → List Char
  | [], _, _ => []
  | point :: rest, last, s =>
    let start := { s with delta := s.delta + (point - last) * (s.handled + 1) }
    let (s, out) := label.foldl (State.pass point) (start, [])
    out ++ insertions label rest (point + 1) { s with delta := s.delta + 1 }

/-- The Punycode form of a label. -/
def encode (label : List Char) : List Char :=
  let basic := label.filter (·.toNat < 0x80)
  let points := (label.filter (0x80 ≤ ·.toNat)).map (·.toNat) |>.mergeSort |>.eraseReps
  let text := if basic = [] then [] else basic ++ ['-']
  text ++ insertions label points 0x80 ⟨0, 72, basic.length, true⟩

/-- Reads a distance: its value and the characters left. -/
def readNumber (bias : Nat) : List Char → Nat → Nat → Nat → Option (Nat × List Char)
  | [], _, _, _ => none
  | c :: rest, value, weight, k => do
    let d ← digitValue? c
    let value := value + d * weight
    let t := threshold bias k
    if limit < value then none
    else if d < t then some (value, rest)
    else if limit < weight * (36 - t) then none
    else readNumber bias rest value (weight * (36 - t)) (k + 36)

/-- What is left after a distance is shorter. -/
theorem length_of_readNumber {bias : Nat} {cs rest : List Char} {value weight k result : Nat}
    (h : readNumber bias cs value weight k = some (result, rest)) : rest.length < cs.length := by
  induction cs generalizing value weight k with
  | nil => simp [readNumber] at h
  | cons c cs ih =>
    simp only [readNumber, Option.bind_eq_bind, Option.bind_eq_some_iff] at h
    obtain ⟨d, _, h⟩ := h
    split at h
    · cases h
    · split at h
      · cases h; simp
      · split at h
        · cases h
        · exact Nat.lt_succ_of_lt (ih h)

/-- Whether a number is a code point that a text can hold. -/
def isScalar (n : Nat) : Bool := n < 0xD800 || (0xDFFF < n && n < 0x110000)

/-- Reads insertions into a label. -/
def readInsertions (label : List Char) (point position bias : Nat) (isFirst : Bool)
    (cs : List Char) : Option (List Char) :=
  match cs with
  | [] => some label
  | c :: tail =>
    match _h : readNumber bias (c :: tail) position 1 36 with
    | none => none
    | some (i, rest) =>
      let size := label.length + 1
      let point := point + i / size
      let place := i % size
      if limit < point ∨ !isScalar point then none
      else
        readInsertions (label.insertIdx place (Char.ofNat point)) point (place + 1)
          (adapt (i - position) size isFirst) false rest
termination_by cs.length
decreasing_by exact length_of_readNumber _h

/-- The label with a Punycode form. -/
def decode? (text : List Char) : Option (List Char) :=
  let tail := (text.reverse.takeWhile (· ≠ '-')).reverse
  let before := text.take (text.length - tail.length)
  let basic := before.dropLast
  if before.length = 1 then none
  else readInsertions basic 0x80 0 72 true tail

end AcmeClient.Idna.Punycode
