import AcmeClient.Crypto.Octets

/-!
# Elements of DER

An element has a tag, the length of its content in as few octets as possible, and the content.
Readers take elements from the front of octets; a constructed element is read to its end.
-/

namespace AcmeClient.Der

/-- An element. -/
structure Element where
  tag : UInt8
  content : Bytes
  deriving DecidableEq, Repr

/-- The octets of a length. -/
def lengthOctets (n : Nat) : Bytes :=
  if n < 0x80 then [UInt8.ofNat n]
  else UInt8.ofNat (0x80 + Octets.width n) :: Octets.minimal n

/-- The octets of an element. -/
def write (tag : UInt8) (content : Bytes) : Bytes := tag :: lengthOctets content.length ++ content

/-- Takes a value from the front of octets. -/
abbrev Reader := StateT Bytes Option

/-- The tags of the universal class that may occur. -/
def universalTags : List UInt8 :=
  [0x01, 0x02, 0x03, 0x04, 0x05, 0x06, 0x09, 0x0A, 0x0C, 0x12, 0x13, 0x14, 0x15, 0x16, 0x17, 0x18,
    0x1A, 0x1E, 0x30, 0x31]

/-- Whether a tag may occur. Tags with numbers above 30 take more octets and do not. -/
def isTag (t : UInt8) : Bool :=
  if t < 0x40 then universalTags.contains t else t &&& 0x1F ≠ 0x1F

/-- The longest content. -/
def longest : Nat := 0x0FFFFFFF

namespace Reader

/-- The next octet. -/
def octet : Reader UInt8 := fun
  | [] => none
  | b :: rest => some (b, rest)

/-- Exactly some octets. -/
def take (n : Nat) : Reader Bytes := fun s =>
  if n ≤ s.length then some (s.take n, s.drop n) else none

/-- A length, which must be in its shortest form. -/
def length : Reader Nat := do
  let b ← octet
  if b < 0x80 then return b.toNat
  if b < 0x81 ∨ 0x84 < b then failure
  let octets ← take (b.toNat - 0x80)
  let n := octets.toNat
  if longest < n ∨ lengthOctets n ≠ b :: octets then failure
  return n

/-- A tag and the length of its content. -/
def header : Reader (UInt8 × Nat) := do
  let t ← octet
  if !isTag t then failure
  let n ← length
  return (t, n)

/-- Any element. -/
def element : Reader Element := do
  let (tag, n) ← header
  return { tag, content := ← take n }

/-- The content of an element with a tag. -/
def content (tag : UInt8) : Reader Bytes := do
  let e ← element
  if e.tag = tag then return e.content else failure

/-- Runs a reader on a whole content. -/
def whole (r : Reader α) (s : Bytes) : Option α :=
  match r s with
  | some (x, []) => some x
  | _ => none

/-- Reads the content of an element with a tag to its end. -/
def within (tag : UInt8) (r : Reader α) : Reader α := do
  let c ← content tag
  match whole r c with
  | some x => return x
  | none => failure

/-- The next tag, if there is one. -/
def peek : Reader (Option UInt8) := fun s => some (s.head?, s)

/-- Whether nothing is left. -/
def isDone : Reader Bool := fun s => some (s.isEmpty, s)

/-- Repeats a reader to the end; the first argument bounds the repetitions. -/
def manyFrom (r : Reader α) : Nat → Reader (List α)
  | 0 => do if ← isDone then return [] else failure
  | n + 1 => do
    if ← isDone then return []
    let x ← r
    return x :: (← manyFrom r n)

/-- Repeats a reader to the end. -/
def many (r : Reader α) : Reader (List α) := do manyFrom r (← get).length

/-- A list of values in a sequence. -/
def list (r : Reader α) : Reader (List α) := within 0x30 (many r)

/-- An optional field with a context-specific tag number, which a reader takes if it is there.
Fields with lower numbers are passed; the first argument bounds their number. -/
def taggedFrom (number : UInt8) (r : Reader α) : Nat → Reader (Option α)
  | 0 => return none
  | n + 1 => do
    match ← peek with
    | none => return none
    | some t =>
      if !isTag t then failure
      if t &&& 0xC0 ≠ 0x80 ∨ number < t &&& 0x1F then return none
      if t &&& 0x1F = number then return some (← r)
      let _ ← element
      taggedFrom number r n

/-- An optional field with a context-specific tag number. -/
def tagged (number : UInt8) (r : Reader α) : Reader (Option α) := do
  taggedFrom number r ((← get).length + 1)

end Reader

end AcmeClient.Der
