import AcmeClient.Encoding.Base64
import AcmeClient.Text.Blank

/-!
# Documents in PEM form

A document stands between two boundaries with the same label, in lines of 64 symbols of which
only the last may be shorter. One text may stand in front of it, nothing behind it.
-/

namespace AcmeClient.Pem

/-- What starts the first boundary. -/
def beginMark : List Char := "-----BEGIN ".toList

/-- What starts the last boundary. -/
def endMark : List Char := "-----END ".toList

/-- What ends a boundary. -/
def dashes : List Char := "-----".toList

/-- The number of symbols in a line. -/
def lineWidth : Nat := 64

/-- What follows the end of a line: CR LF, CR or LF. -/
def afterLineEnd? : List Char → Option (List Char)
  | '\r' :: '\n' :: rest => some rest
  | '\r' :: rest => some rest
  | '\n' :: rest => some rest
  | _ => none

/-- Whether a character may stand in a label. -/
def isLabelChar (c : Char) : Bool := 0x21 ≤ c.toNat && c.toNat ≤ 0x7E && c ≠ '-'

/-- Whether characters are words separated by single spaces. -/
def isLabel (cs : List Char) : Bool := (Text.splitOn ' ' cs).all fun w => !w.isEmpty && w.all isLabelChar

/-- What follows the first boundary's mark, which stands at the start of the text or of a
line. -/
def afterPreamble? : Bool → List Char → Option (List Char)
  | _, [] => none
  | atStart, c :: cs =>
    match if atStart then Text.after? beginMark (c :: cs) else none with
    | some rest => some rest
    | none => if c = '\x00' then none else afterPreamble? (c = '\n') cs

/-- The label of the first boundary and what follows its line. -/
def label? (cs : List Char) : Option (List Char × List Char) := do
  let label := cs.takeWhile (· ≠ '-')
  let rest ← Text.after? dashes (cs.drop label.length)
  let rest ← afterLineEnd? rest
  if isLabel label then some (label, rest) else none

/-- The text without the last boundary and the line ends around it. -/
def beforeEnd? (label cs : List Char) : Option (List Char) := do
  let cs := match cs.reverse with
    | '\n' :: '\r' :: rest => rest
    | '\n' :: rest => rest
    | '\r' :: rest => rest
    | rest => rest
  let rest ← Text.after? (endMark ++ label ++ dashes).reverse cs
  match rest with
  | '\n' :: '\r' :: rest => some rest.reverse
  | '\n' :: rest => some rest.reverse
  | '\r' :: rest => some rest.reverse
  | _ => none

/-- The symbols of full lines and a last one; the first argument bounds the lines. -/
def symbolsFrom : Nat → List Char → Option (List Char)
  | 0, _ => none
  | lines + 1, cs =>
    if cs.length ≤ lineWidth then some cs
    else do
      let rest ← afterLineEnd? (cs.drop lineWidth)
      if rest = [] then none
      (cs.take lineWidth ++ ·) <$> symbolsFrom lines rest

/-- The label and the octets of a document. -/
def decode? (text : String) : Option (String × Bytes) := do
  let rest ← afterPreamble? true text.toList
  let (label, rest) ← label? rest
  let body ← beforeEnd? label rest
  let symbols ← symbolsFrom (body.length + 1) body
  if symbols = [] then none
  let octets ← Base64.decodePadded? symbols
  some (.ofList label, octets)

/-- Symbols in lines; the first argument bounds their number. -/
def linesFrom : Nat → List Char → List Char
  | 0, _ => []
  | lines + 1, cs =>
    if cs = [] then [] else cs.take lineWidth ++ '\n' :: linesFrom lines (cs.drop lineWidth)

/-- The document with a label and octets. -/
def encode (label : String) (octets : Bytes) : String :=
  let symbols := Base64.encodePadded octets
  .ofList <|
    beginMark ++ label.toList ++ dashes ++ '\n' :: linesFrom (symbols.length + 1) symbols ++
      endMark ++ label.toList ++ dashes ++ ['\n']

end AcmeClient.Pem
