import AcmeClient.Idna.Label

/-!
# Host names in ASCII

`toAscii?` maps a host name, brings it into normal form and encodes each label. A name in ASCII
is acceptable if it has no character that a host cannot hold, no capital letter, and its encoded
labels stand for valid ones; the result is always acceptable, and an acceptable name is its own
result.
-/

namespace AcmeClient.Idna

open Unicode

/-- Whether a host cannot hold a character of ASCII. -/
def isForbidden (c : Char) : Bool :=
  c.toNat ≤ 0x20 || c.toNat == 0x7F ||
    ['%', '#', '/', ':', '<', '>', '?', '@', '[', '\\', ']', '^', '|'].contains c

/-- Whether a character of ASCII stays as it is in a host name. -/
def isHostChar (c : Char) : Bool := c.toNat < 0x80 && !isForbidden c && !c.isUpper

/-- Whether the labels that a name stands for keep the rule for mixed directions. -/
def directionsFit (labels : List (List Char)) : Bool :=
  !labels.any (·.any isRightToLeft) || labels.all followsBidiRule

/-- Whether a name in ASCII is a host name. -/
def isAcceptable (name : List Char) : Bool :=
  name.all isHostChar &&
    match (Text.splitOn '.' name).mapM Label.decode? with
    | none => false
    | some labels => directionsFit labels

/-- The mapping of a character: capital letters of ASCII become small. -/
def mapChar? (c : Char) : Option (List Char) :=
  if c.toNat < 0x80 then some [c.toLower]
  else match hostMapping c with
    | .valid => some [c]
    | .refused => none
    | .replaced text => some text

/-- The host name in ASCII. -/
def toAscii? (name : List Char) : Option (List Char) := do
  let mapped ← name.mapM mapChar?
  let labels ← (Text.splitOn '.' (normalize mapped.flatten)).mapM Label.encode?
  let ascii := Text.join ['.'] labels
  if isAcceptable ascii then some ascii else none

end AcmeClient.Idna
