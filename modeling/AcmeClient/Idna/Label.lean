import AcmeClient.Idna.Punycode
import AcmeClient.Text.Blank
import AcmeClient.Unicode.BidiClass
import AcmeClient.Unicode.HostMapping
import AcmeClient.Unicode.JoiningType
import AcmeClient.Unicode.Marks
import AcmeClient.Unicode.Normalization

/-!
# Labels of host names

An encoded label starts with `xn--` and stands for a label with characters outside ASCII. Such a
label is valid if the mapping step leaves it alone and its joiners stand where scripts use them;
in a name with right-to-left characters every label also follows the rule for mixed directions.
-/

namespace AcmeClient.Idna

open Unicode

/-- What an encoded label starts with. -/
def marker : List Char := ['x', 'n', '-', '-']

/-- Whether the next character that is not transparent joins on its right side. -/
def joinsNext (cs : List Char) : Bool :=
  match cs.dropWhile (joiningType · = .transparent) with
  | [] => false
  | c :: _ => joiningType c = .rightJoining || joiningType c = .dualJoining

/-- Whether the character before, transparent ones aside, joins on its left side; the
characters are given in reverse. -/
def joinsBefore (before : List Char) : Bool :=
  match before.dropWhile (joiningType · = .transparent) with
  | [] => false
  | c :: _ => joiningType c = .leftJoining || joiningType c = .dualJoining

/-- Whether the joiners among the characters after `before` stand after a virama or, for the
non-joiner, between letters that would join. -/
def joinersFit : List Char → List Char → Bool
  | _, [] => true
  | before, c :: rest =>
    let afterVirama := (before.head?.map combiningClass) == some 9
    (if c = '\u200D' then afterVirama
     else if c = '\u200C' then afterVirama || (joinsBefore before && joinsNext rest)
     else true) && joinersFit (c :: before) rest

/-- Whether a label outside ASCII may be written in encoded form. -/
def isValidLabel (label : List Char) : Bool :=
  (match label with
    | [] => false
    | c :: _ => !isMark c) &&
  label.any (0x80 ≤ ·.toNat) &&
  (Text.after? marker label).isNone &&
  label.all (hostMapping · = .valid) &&
  normalize label == label &&
  joinersFit [] label

/-- Whether a character makes a name subject to the rule for mixed directions. -/
def isRightToLeft (c : Char) : Bool :=
  0x590 ≤ c.toNat &&
    match bidiClass c with
    | .right | .arabicLetter | .arabicNumber => true
    | _ => false

/-- The classes of a label without the marks at its end. -/
def directionalClasses (label : List Char) : List BidiClass :=
  ((label.map bidiClass).reverse.dropWhile (· = .nonspacingMark)).reverse

/-- The rule for the direction of a label. -/
def followsBidiRule (label : List Char) : Bool :=
  let classes := label.map bidiClass
  let last := (directionalClasses label).getLast?
  match classes.head? with
  | none => true
  | some .left =>
    classes.all (fun k => k = .left || k = .europeanNumber || k = .europeanSeparator ||
      k = .commonSeparator || k = .europeanTerminator || k = .otherNeutral ||
      k = .boundaryNeutral || k = .nonspacingMark) &&
    (last == some .left || last == some .europeanNumber)
  | some first =>
    (first = .right || first = .arabicLetter) &&
    classes.all (fun k => k = .right || k = .arabicLetter || k = .arabicNumber ||
      k = .europeanNumber || k = .europeanSeparator || k = .commonSeparator ||
      k = .europeanTerminator || k = .otherNeutral || k = .boundaryNeutral ||
      k = .nonspacingMark) &&
    (last == some .right || last == some .arabicLetter || last == some .europeanNumber ||
      last == some .arabicNumber) &&
    !(classes.contains .europeanNumber && classes.contains .arabicNumber)

/-- The most symbols that are decoded. -/
def decodeLimit : Nat := 2000

/-- The most characters that are encoded. -/
def encodeLimit : Nat := 1000

/-- The characters that a label in ASCII stands for. -/
def Label.decode? (label : List Char) : Option (List Char) :=
  match Text.after? marker label with
  | none => some label
  | some code =>
    if decodeLimit < code.length then none
    else (Punycode.decode? code).filter isValidLabel

/-- A label in ASCII. -/
def Label.encode? (label : List Char) : Option (List Char) :=
  if label.all (·.toNat < 0x80) then some label
  else if encodeLimit < label.length ∨ (Text.after? marker label).isSome then none
  else some (marker ++ Punycode.encode label)

end AcmeClient.Idna
