import AcmeClient.Json.Value

/-!
# Typed JSON text

A codec reads and writes the values of one type. A record is described by its members in order:
each has a name, a codec for its field, and a rule for when it may be missing. An object gives
the members by name; a list gives them by position. Unknown members are passed, and a member
given twice is refused.
-/

namespace AcmeClient.Json

/-- How values of a type are read, at a nesting depth left, and written. -/
structure Codec (α : Type) where
  read : Nat → Reader α
  write : α → Bytes

namespace Codec

/-- The value that a whole text stands for. -/
def decode (c : Codec α) (b : Bytes) : Except Fault α := Reader.runAll (c.read nestingLimit) b

/-- Strings. -/
def text : Codec String where
  read _ := do
    match ← Reader.peek with
    | none => throw .truncated
    | some b => if b = Reader.octet '"' then Reader.advance; Reader.text else Reader.refuse
  write := writeText

/-- Truth values. -/
def bool : Codec Bool where
  read _ := do
    match ← Reader.peek with
    | none => throw .truncated
    | some b =>
      if b = Reader.octet 't' then Reader.advance; Reader.expect ['r', 'u', 'e']; return true
      else if b = Reader.octet 'f' then
        Reader.advance; Reader.expect ['a', 'l', 's', 'e']; return false
      else Reader.refuse
  write := writeBool

/-- Numbers of 64 bits. -/
def uint64 : Codec UInt64 where
  read _ := do return UInt64.ofNat (← Reader.natBelow (Nat.pow 2 64))
  write n := ascii (Nat.toDigits 10 n.toNat)

/-- Numbers of 16 bits. -/
def uint16 : Codec UInt16 where
  read _ := do return UInt16.ofNat (← Reader.natBelow (Nat.pow 2 16))
  write n := ascii (Nat.toDigits 10 n.toNat)

/-- Any values. -/
def value : Codec Value where
  read := Reader.value
  write := Value.write

/-- Lists. -/
def list (c : Codec α) : Codec (List α) where
  read depth := do
    match ← Reader.peek with
    | none => throw .truncated
    | some b =>
      if b = Reader.octet '[' then
        Reader.nested depth fun depth => do
          Reader.advance
          Reader.items (c.read depth)
      else Reader.refuse
  write l := writeList (l.map c.write)

/-- Values or nothing. -/
def option (c : Codec α) : Codec (Option α) where
  read depth := do
    match ← Reader.peek with
    | some b =>
      if b = Reader.octet 'n' then
        Reader.advance; Reader.expect ['u', 'l', 'l']; return none
      else return some (← c.read depth)
    | none => return some (← c.read depth)
  write
    | none => writeNull
    | some x => c.write x

end Codec

/-- A member of a record: how it is read into the record and written from it, whether an object
must have it, and whether a list may end before it. -/
structure Member (ρ : Type) where
  name : String
  read : Nat → Reader (ρ → ρ)
  write : ρ → Option Bytes
  isRequired : Bool
  mayEndBefore : Bool

namespace Member

/-- A member that an object must have. -/
def required (name : String) (c : Codec α) (get : ρ → α) (put : α → ρ → ρ) : Member ρ where
  name
  read depth := do return put (← c.read depth)
  write r := some (c.write (get r))
  isRequired := true
  mayEndBefore := false

/-- A member that keeps its default if it is missing. -/
def defaulted (name : String) (c : Codec α) (get : ρ → α) (put : α → ρ → ρ) : Member ρ where
  name
  read depth := do return put (← c.read depth)
  write r := some (c.write (get r))
  isRequired := false
  mayEndBefore := true

/-- A member that is left out if it has no value. -/
def optional (name : String) (c : Codec α) (get : ρ → Option α) (put : Option α → ρ → ρ) :
    Member ρ where
  name
  read depth := do return put (← c.option.read depth)
  write r := (get r).map c.write
  isRequired := false
  mayEndBefore := false

/-- A member that is written even if it has no value. -/
def nullable (name : String) (c : Codec α) (get : ρ → Option α) (put : Option α → ρ → ρ) :
    Member ρ where
  name
  read depth := do return put (← c.option.read depth)
  write r := some (c.option.write (get r))
  isRequired := false
  mayEndBefore := false

end Member

/-- The members of a record in order, and the record that has none of them. -/
structure Record (ρ : Type) where
  blank : ρ
  members : List (Member ρ)

namespace Record

/-- Reads one member into the record; the names seen before come with it. -/
def member (f : Record ρ) (depth : Nat) (state : ρ × List String) : Reader (ρ × List String) := do
  let (r, seen) := state
  let key ← Reader.text
  match f.members.find? (·.name = key) with
  | none =>
    Reader.colon
    Reader.skip
    return (r, seen)
  | some m =>
    if seen.contains key then throw .mismatch
    Reader.colon
    let update ← m.read depth
    return (update r, key :: seen)

/-- Reads members by position up to the closing bracket. -/
def positions (depth : Nat) : List (Member ρ) → Bool → ρ → Reader ρ
  | [], _, r => do
    match ← Reader.peek with
    | none => throw .truncated
    | some b => if b = Reader.octet ']' then Reader.advance; return r else throw .malformed
  | m :: rest, isFirst, r => do
    match ← Reader.peek with
    | none => throw .truncated
    | some b =>
      if b = Reader.octet ']' then
        if (m :: rest).all (·.mayEndBefore) then Reader.advance; return r else throw .mismatch
      else if isFirst then
        let update ← m.read depth
        positions depth rest false (update r)
      else if b = Reader.octet ',' then
        Reader.advance
        match ← Reader.peek with
        | none => throw .truncated
        | some c =>
          if c = Reader.octet ']' then throw .malformed
          let update ← m.read depth
          positions depth rest false (update r)
      else throw .malformed

/-- Reads a record given as an object or as a list. -/
def read (f : Record ρ) (depth : Nat) : Reader ρ := do
  match ← Reader.peek with
  | none => throw .truncated
  | some b =>
    if b = Reader.octet '\x7b' then
      Reader.nested depth fun depth => do
        Reader.advance
        let (r, seen) ← Reader.members (f.member depth) (f.blank, [])
        if f.members.all fun m => !m.isRequired || seen.contains m.name then return r
        else throw .mismatch
    else if b = Reader.octet '[' then
      Reader.nested depth fun depth => do
        Reader.advance
        positions depth f.members true f.blank
    else Reader.refuse

/-- Writes a record as an object. -/
def write (f : Record ρ) (r : ρ) : Bytes :=
  writeObject (f.members.filterMap fun m => (m.write r).map (m.name, ·))

/-- The codec of a record. -/
def codec (f : Record ρ) : Codec ρ where
  read := f.read
  write := f.write

end Record

end AcmeClient.Json
