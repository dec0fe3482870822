import AcmeClient.Text.Utf8

/-!
# Reading JSON text

A reader takes octets from the front of the text. It fails for one of three reasons: the text is
not JSON, it ends too early, or it holds something else than what is asked for.
-/

namespace AcmeClient.Json

/-- Why a text is not read. -/
inductive Fault where
  | malformed
  | mismatch
  | truncated
  deriving DecidableEq, Repr

/-- Takes a value from the front of the text. -/
abbrev Reader := StateT Bytes (Except Fault)

namespace Reader

/-- The octet of a character of ASCII. -/
abbrev octet (c : Char) : UInt8 := c.toNat.toUInt8

/-- Whether an octet may stand between tokens. -/
def isBlank (b : UInt8) : Bool := b == 0x20 || b == 0x0A || b == 0x0D || b == 0x09

/-- Whether an octet is a decimal digit. -/
def isDigit (b : UInt8) : Bool := 0x30 ≤ b && b ≤ 0x39

/-- The value of a decimal digit. -/
def digitValue (b : UInt8) : Nat := b.toNat - 0x30

/-- Passes blanks and shows the next octet. -/
def peek : Reader (Option UInt8) := fun s =>
  let rest := s.dropWhile isBlank
  .ok (rest.head?, rest)

/-- Passes one octet. -/
def advance : Reader Unit := modify List.tail

/-- Passes the given octets. -/
def expect : List Char → Reader Unit
  | [] => pure ()
  | c :: cs => do
    match ← get with
    | [] => throw .truncated
    | b :: rest => if b = octet c then set rest; expect cs else throw .malformed

/-- The value of a hexadecimal digit. -/
def hexValue? (b : UInt8) : Option Nat :=
  if 0x30 ≤ b ∧ b ≤ 0x39 then some (b.toNat - 0x30)
  else if 0x61 ≤ b ∧ b ≤ 0x66 then some (b.toNat - 0x57)
  else if 0x41 ≤ b ∧ b ≤ 0x46 then some (b.toNat - 0x37)
  else none

/-- The value of four hexadecimal digits in front. -/
def fourDigits : Bytes → Except Fault (Nat × Bytes)
  | a :: b :: c :: d :: rest =>
    match hexValue? a, hexValue? b, hexValue? c, hexValue? d with
    | some a, some b, some c, some d => .ok (((a * 16 + b) * 16 + c) * 16 + d, rest)
    | _, _, _, _ => .error .malformed
  | _ => .error .truncated

/-- The octet that a short escape stands for. -/
def shortEscape? (b : UInt8) : Option UInt8 :=
  if b = octet '"' ∨ b = octet '\\' ∨ b = octet '/' then some b
  else if b = octet 'b' then some 0x08
  else if b = octet 'f' then some 0x0C
  else if b = octet 'n' then some 0x0A
  else if b = octet 'r' then some 0x0D
  else if b = octet 't' then some 0x09
  else none

/-- The octets of a character given by its number. -/
def charOctets (n : Nat) : Bytes := Utf8.encode (.ofList [Char.ofNat n])

/-- The character of an escape by number, after `\u`; characters beyond 16 bits take two. -/
def numberEscape (s : Bytes) : Except Fault (Bytes × Bytes) := do
  let (n, rest) ← fourDigits s
  if 0xDC00 ≤ n ∧ n ≤ 0xDFFF then throw .malformed
  else if n < 0xD800 ∨ 0xDBFF < n then return (charOctets n, rest)
  else match rest with
    | [] => throw .truncated
    | b :: rest =>
      if b ≠ octet '\\' then throw .malformed
      else match rest with
        | [] => throw .truncated
        | u :: rest =>
          if u ≠ octet 'u' then throw .malformed
          else
            let (m, rest) ← fourDigits rest
            if m < 0xDC00 ∨ 0xDFFF < m then throw .malformed
            else return (charOctets (0x10000 + (n - 0xD800) * 0x400 + (m - 0xDC00)), rest)

/-- The octets of a string up to its closing quote, and the rest. The first argument bounds the
number of steps. -/
def stringFrom : Nat → Bytes → Except Fault (Bytes × Bytes)
  | 0, _ => .error .truncated
  | _ + 1, [] => .error .truncated
  | steps + 1, b :: rest =>
    if b = octet '"' then .ok ([], rest)
    else if b = octet '\\' then
      match rest with
      | [] => .error .truncated
      | e :: rest =>
        if e = octet 'u' then do
          let (octets, rest) ← numberEscape rest
          let (more, rest) ← stringFrom steps rest
          .ok (octets ++ more, rest)
        else match shortEscape? e with
          | none => .error .malformed
          | some c => do
            let (more, rest) ← stringFrom steps rest
            .ok (c :: more, rest)
    else if b < 0x20 then .error .malformed
    else do
      let (more, rest) ← stringFrom steps rest
      .ok (b :: more, rest)

/-- A string after its opening quote. -/
def text : Reader String := fun s => do
  let (octets, rest) ← stringFrom (s.length + 1) s
  match Utf8.decode? octets with
  | none => .error .malformed
  | some t => .ok (t, rest)

/-- Passes the colon after a key. -/
def colon : Reader Unit := do
  match ← peek with
  | none => throw .truncated
  | some b => if b = octet ':' then advance else throw .malformed

/-- Items up to the closing bracket of a list; the first argument bounds their number. -/
def itemsFrom (item : Reader α) : Nat → Reader (List α)
  | 0 => throw .malformed
  | steps + 1 => do
    let x ← item
    match ← peek with
    | none => throw .truncated
    | some b =>
      if b = octet ']' then advance; return [x]
      else if b = octet ',' then
        advance
        match ← peek with
        | none => throw .truncated
        | some c =>
          if c = octet ']' then throw .malformed
          else return x :: (← itemsFrom item steps)
      else throw .malformed

/-- The items of a list after its opening bracket. -/
def items (item : Reader α) : Reader (List α) := do
  match ← peek with
  | none => throw .truncated
  | some b =>
    if b = octet ']' then advance; return []
    else itemsFrom item (← get).length

/-- Passes the quote of the next key of an object: true for a key, false at the end. -/
def nextKey (isFirst : Bool) : Reader Bool := do
  match ← peek with
  | none => throw .truncated
  | some b =>
    if b = octet '\x7d' then advance; return false
    else if isFirst then
      if b = octet '"' then advance; return true else throw .malformed
    else if b = octet ',' then
      advance
      match ← peek with
      | none => throw .truncated
      | some c => if c = octet '"' then advance; return true else throw .malformed
    else throw .malformed

/-- Folds over the members of an object; the first argument bounds their number. -/
def membersFrom (member : σ → Reader σ) : Nat → Bool → σ → Reader σ
  | 0, _, _ => throw .malformed
  | steps + 1, isFirst, state => do
    if ← nextKey isFirst then membersFrom member steps false (← member state) else return state

/-- Folds over the members of an object after its opening brace; each step starts inside the
quotes of the key. -/
def members (member : σ → Reader σ) (start : σ) : Reader σ := do
  membersFrom member ((← get).length + 1) true start

/-- Runs a reader on a whole text, which may end in blanks. -/
def runAll (r : Reader α) (s : Bytes) : Except Fault α := do
  let (x, rest) ← r s
  if rest.all isBlank then .ok x else .error .malformed

end Reader

end AcmeClient.Json
