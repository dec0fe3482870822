import AcmeClient.Unicode.CombiningClass
import AcmeClient.Unicode.Decomposition

/-!
# Composed normal form

A text is normalized by decomposing every character, ordering marks by their classes, and
composing again. Hangul syllables follow arithmetic instead of the table.
-/

namespace AcmeClient.Unicode

/-- The decomposition of a Hangul syllable given by its index. -/
def hangulParts (s : Nat) : List Char :=
  let leading := Char.ofNat (0x1100 + s / 588)
  let vowel := Char.ofNat (0x1161 + s % 588 / 28)
  if s % 28 = 0 then [leading, vowel] else [leading, vowel, Char.ofNat (0x11A7 + s % 28)]

/-- The decomposition of a character; pairs nest at most as deep as the first argument. -/
def decomposeChar : Nat → Char → List Char
  | 0, c => [c]
  | depth + 1, c =>
    let n := c.toNat
    if n < 0xC0 then [c]
    else if 0xAC00 ≤ n ∧ n < 0xAC00 + 11172 then hangulParts (n - 0xAC00)
    else match decompositionRuns.find? c with
      | none => [c]
      | some r =>
        match r.kind, r.numbers with
        | 'P', [a, b] => decomposeChar depth (Char.ofNat a) ++ [Char.ofNat b]
        | 'D', l => l.map Char.ofNat
        | _, _ => [c]

/-- Puts a character in front of ordered text, behind the marks of lower class. -/
def insertMark (c : Char) : List Char → List Char
  | [] => [c]
  | d :: rest =>
    if combiningClass d ≠ 0 ∧ combiningClass d < combiningClass c then d :: insertMark c rest
    else c :: d :: rest

/-- Orders the marks after each starter by class. -/
def orderMarks (cs : List Char) : List Char := cs.foldr insertMark []

/-- The composite of two characters. -/
def composePair? (a b : Char) : Option Char :=
  let x := a.toNat
  let y := b.toNat
  if y < 0x300 then none
  else if 0x1100 ≤ x ∧ x < 0x1113 ∧ 0x1161 ≤ y ∧ y < 0x1176 then
    some (Char.ofNat (0xAC00 + ((x - 0x1100) * 21 + (y - 0x1161)) * 28))
  else if 0xAC00 ≤ x ∧ x < 0xAC00 + 11172 ∧ (x - 0xAC00) % 28 = 0 ∧ 0x11A8 ≤ y ∧ y < 0x11C3 then
    some (Char.ofNat (x + (y - 0x11A7)))
  else
    (Array.find? (fun r => r.kind == 'P' && r.numbers == [x, y]) decompositionRuns).map
      fun r => Char.ofNat r.start

/-- Composes text after a starter and the marks that did not compose with it. -/
def composeFrom (starter : Char) (marks : List Char) : List Char → List Char
  | [] => starter :: marks
  | c :: rest =>
    let blocked := match marks.getLast? with
      | none => false
      | some m => combiningClass c ≤ combiningClass m
    match if blocked then none else composePair? starter c with
    | some composite => composeFrom composite marks rest
    | none =>
      if combiningClass c = 0 then starter :: marks ++ composeFrom c [] rest
      else composeFrom starter (marks ++ [c]) rest

/-- Composes ordered text; marks before the first starter stay. -/
def compose (cs : List Char) : List Char :=
  match cs.dropWhile (combiningClass · ≠ 0) with
  | [] => cs
  | starter :: rest => cs.takeWhile (combiningClass · ≠ 0) ++ composeFrom starter [] rest

/-- The composed normal form. -/
def normalize (cs : List Char) : List Char :=
  if cs.all (·.toNat < 0xC0) then cs
  else compose (orderMarks (cs.flatMap (decomposeChar 4)))

end AcmeClient.Unicode
