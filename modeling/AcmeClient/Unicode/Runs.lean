/-!
# Runs of code points

A property of characters is a table of runs: each run has a first code point, a kind and
possibly some numbers, and lasts up to the next run. Tables are written as text, one item per
run: the distance from the previous run in base 36, the kind as a capital letter, and the
numbers in base 36 separated by full stops.
-/

namespace AcmeClient.Unicode

/-- A run of code points with the same kind and numbers. -/
structure Run where
  start : Nat
  kind : Char
  numbers : List Nat
  deriving Repr

/-- A property of characters: runs in increasing order. -/
abbrev Runs := Array Run

namespace Runs

/-- The value of a base 36 digit. -/
def digit (c : Char) : Nat := if c.isDigit then c.toNat - 48 else c.toNat - 87

/-- The runs read so far and the parts of the item being read. -/
structure Reading where
  runs : Runs := #[]
  start : Nat := 0
  kind : Option Char := none
  numbers : List Nat := []
  number : Nat := 0

/-- Ends an item. -/
def Reading.close (r : Reading) : Reading :=
  match r.kind with
  | none => r
  | some k =>
    { runs := r.runs.push ⟨r.start, k, (r.number :: r.numbers).reverse⟩, start := r.start }

/-- Reads one character of a table's text. -/
def Reading.step (r : Reading) (c : Char) : Reading :=
  if c.isUpper then { r with start := r.start + r.number, kind := some c, number := 0 }
  else if c.isWhitespace then r.close
  else if c = '.' then { r with numbers := r.number :: r.numbers, number := 0 }
  else { r with number := r.number * 36 + digit c }

/-- The table with the given text. -/
def ofText (text : String) : Runs := (text.toList.foldl Reading.step {}).close.runs

/-- The last run among positions `lo` to `hi` that starts at or before `c`, if the one at `lo`
does. -/
def findBetween (t : Runs) (c lo hi : Nat) : Option Run :=
  if lo + 1 < hi then
    let mid := (lo + hi) / 2
    match t[mid]? with
    | some r => if r.start ≤ c then findBetween t c mid hi else findBetween t c lo mid
    | none => none
  else t[lo]?
termination_by hi - lo

/-- The run that holds a character. -/
def find? (t : Runs) (c : Char) : Option Run := findBetween t c.toNat 0 t.size

/-- The kind of the run that holds a character. -/
def kindOf (t : Runs) (c : Char) : Char := (t.find? c).elim 'N' (·.kind)

/-- Whether a character is in a set written with the kinds `Y` and `N`. -/
def contains (t : Runs) (c : Char) : Bool := t.kindOf c == 'Y'

end Runs

end AcmeClient.Unicode
