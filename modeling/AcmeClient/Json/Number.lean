import AcmeClient.Decimal.Integer
import AcmeClient.Decimal.Shortest
import AcmeClient.Json.Reader

/-!
# Numbers in JSON text

A number without fraction and exponent is kept exactly while it fits 64 bits; any other is a
number of double precision, computed from as many leading digits as fit 64 bits and a power of
ten.
-/

namespace AcmeClient.Json

/-- A number: an integer of 64 bits or a number of double precision. -/
inductive Number where
  | integer (n : Int)
  | real (x : Real)
  deriving DecidableEq, Repr

namespace Reader

/-- The largest integer that is kept exactly. -/
def integerLimit : Nat := Nat.pow 2 64 - 1

/-- The largest exponent that is kept exactly. -/
def exponentLimit : Nat := Nat.pow 2 31 - 1

/-- Appends digits to a number as long as it stays within a limit; the digits left over follow. -/
def absorb (limit : Nat) : Nat → Bytes → Nat × Bytes
  | n, [] => (n, [])
  | n, d :: rest =>
    if limit < n * 10 + digitValue d then (n, d :: rest)
    else absorb limit (n * 10 + digitValue d) rest

/-- The number with the given sign, digits and power of ten. -/
def realOf (isNegative : Bool) (digits : Nat) (power : Int) : Except Fault Number :=
  match (Real.ofNat? digits).bind (·.scale power) with
  | none => .error .malformed
  | some x => .ok (.real { x with isNegative })

/-- Reads an exponent after its mark. -/
def exponentPart (isNegative : Bool) (digits : Nat) (power : Int) (s : Bytes) :
    Except Fault (Number × Bytes) := do
  let (isDown, s) := match s with
    | b :: rest => if b = octet '-' then (true, rest) else if b = octet '+' then (false, rest) else (false, s)
    | [] => (false, s)
  let (exponent, rest) := s.span isDigit
  if exponent = [] then
    throw (if s = [] then .truncated else .malformed)
  match absorb exponentLimit 0 exponent with
  | (n, []) => return (← realOf isNegative digits (if isDown then power - n else power + n), rest)
  | _ =>
    if digits ≠ 0 ∧ !isDown then throw .malformed
    else return (← realOf isNegative 0 0, rest)

/-- Reads a possible exponent. -/
def afterFraction (isNegative : Bool) (digits : Nat) (power : Int) (s : Bytes) :
    Except Fault (Number × Bytes) :=
  match s with
  | b :: rest =>
    if b = octet 'e' ∨ b = octet 'E' then exponentPart isNegative digits power rest
    else (realOf isNegative digits power).map (·, s)
  | [] => (realOf isNegative digits power).map (·, s)

/-- Reads a fraction after its point. -/
def fractionPart (isNegative : Bool) (digits : Nat) (power : Int) (s : Bytes) :
    Except Fault (Number × Bytes) :=
  let (fraction, rest) := s.span isDigit
  if fraction = [] then .error (if s = [] then .truncated else .malformed)
  else
    let (digits, left) := absorb integerLimit digits fraction
    afterFraction isNegative digits (power - (fraction.length - left.length : Nat)) rest

/-- Reads a number after its sign. -/
def unsigned (isNegative : Bool) : Reader Number := fun s => do
  let (digits, rest) := s.span isDigit
  match digits with
  | [] => throw (if s = [] then .truncated else .malformed)
  | d :: more =>
    if d = octet '0' ∧ more ≠ [] then throw .malformed
    let (n, left) := absorb integerLimit 0 digits
    let power : Int := left.length
    match rest with
    | [] => whole n left rest
    | b :: after =>
      if b = octet '.' then fractionPart isNegative n power after
      else if b = octet 'e' ∨ b = octet 'E' then exponentPart isNegative n power after
      else whole n left rest
where
  /-- A number without fraction and exponent. -/
  whole (n : Nat) (left rest : Bytes) : Except Fault (Number × Bytes) :=
    if left ≠ [] then (realOf isNegative n left.length).map (·, rest)
    else if !isNegative then .ok (.integer n, rest)
    else if n = 0 ∨ Nat.pow 2 63 < n then (realOf true n 0).map (·, rest)
    else .ok (.integer (-n), rest)

/-- Reads a number whose first octet is a sign or a digit. -/
def number : Reader Number := do
  match ← get with
  | b :: _ => if b = octet '-' then advance; unsigned true else unsigned false
  | [] => throw .truncated

/-- Fails because the next value is of another kind than asked for; a value that cannot be any
kind is malformed. -/
def refuse : Reader α := do
  match ← peek with
  | none => throw .truncated
  | some b =>
    if b = octet 'n' then advance; expect ['u', 'l', 'l']; throw .mismatch
    else if b = octet 't' then advance; expect ['r', 'u', 'e']; throw .mismatch
    else if b = octet 'f' then advance; expect ['a', 'l', 's', 'e']; throw .mismatch
    else if b = octet '-' ∨ isDigit b then let _ ← number; throw .mismatch
    else if b = octet '"' then advance; let _ ← text; throw .mismatch
    else if b = octet '[' ∨ b = octet '\x7b' then throw .mismatch
    else throw .malformed

/-- Reads a natural number below a bound. -/
def natBelow (bound : Nat) : Reader Nat := do
  match ← peek with
  | none => throw .truncated
  | some b =>
    if b = octet '-' ∨ isDigit b then
      match ← number with
      | .integer n => if 0 ≤ n ∧ n < bound then return n.toNat else throw .mismatch
      | .real _ => throw .mismatch
    else refuse

end Reader

/-- The text of a number. -/
def Number.toChars : Number → List Char
  | .integer n => Decimal.integerChars n
  | .real x => x.toChars

end AcmeClient.Json
