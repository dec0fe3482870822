import AcmeClient.Unicode.Casing

/-!
# Lowercase texts

Lowercasing replaces each character by its lowercase form. A capital sigma becomes the final
form where a word ends: after a cased character and not before one, case-ignorable characters
aside.
-/

namespace AcmeClient.Text

open Unicode

/-- The lowercase form of a character on its own. -/
def lowerChar (c : Char) : List Char :=
  if c.toNat < 0x80 then [c.toLower]
  else match lowercaseRuns.find? c with
    | none => [c]
    | some r =>
      let offset := c.toNat - r.start
      if r.kind = 'C' then r.numbers.map Char.ofNat
      else if r.kind = 'D' then [Char.ofNat (r.numbers.headD 0 + offset)]
      else if r.kind = 'A' ∧ offset % 2 = 0 then [Char.ofNat (c.toNat + 1)]
      else [c]

/-- Whether the first character that is not case-ignorable is cased. -/
def meetsCased (cs : List Char) : Bool :=
  match cs.dropWhile caseIgnorableRuns.contains with
  | [] => false
  | c :: _ => casedRuns.contains c

/-- Lowercases characters that follow those in `before`, given in reverse. -/
def lowerFrom : List Char → List Char → List Char
  | _, [] => []
  | before, c :: cs =>
    let lowered :=
      if c = 'Σ' then if meetsCased before && !meetsCased cs then ['ς'] else ['σ']
      else lowerChar c
    lowered ++ lowerFrom (c :: before) cs

/-- The lowercase form of a text. -/
def lowercase (s : String) : String := .ofList (lowerFrom [] s.toList)

end AcmeClient.Text
