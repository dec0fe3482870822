import AcmeClient.Json.Number

/-!
# JSON values

Any JSON text stands for a value. The members of an object are kept in the order of their keys;
of members with the same key the last one counts. Values that nobody asks for are passed with
fewer checks and to any depth.
-/

namespace AcmeClient.Json

/-- A JSON value. -/
inductive Value where
  | null
  | bool (b : Bool)
  | number (n : Number)
  | text (s : String)
  | list (items : List Value)
  | object (members : List (String × Value))
  deriving Repr

/-- Puts a member in its place among members sorted by key. -/
def insertMember (key : String) (value : α) : List (String × α) → List (String × α)
  | [] => [(key, value)]
  | (k, v) :: rest =>
    if key < k then (key, value) :: (k, v) :: rest
    else if key = k then (key, value) :: rest
    else (k, v) :: insertMember key value rest

/-- Two lists or objects less than this are nested in each other. -/
def nestingLimit : Nat := 128

namespace Reader

/-- Goes one level deeper, unless the limit is reached. -/
def nested (depth : Nat) (r : Nat → Reader α) : Reader α := fun s =>
  if depth ≤ 1 then .error .malformed else r (depth - 1) s

/-- Reads any value. -/
def value : Nat → Reader Value
  | 0 => throw .malformed
  | depth + 1 => do
    match ← peek with
    | none => throw .truncated
    | some b =>
      if b = octet 'n' then advance; expect ['u', 'l', 'l']; return .null
      else if b = octet 't' then advance; expect ['r', 'u', 'e']; return .bool true
      else if b = octet 'f' then advance; expect ['a', 'l', 's', 'e']; return .bool false
      else if b = octet '-' ∨ isDigit b then return .number (← number)
      else if b = octet '"' then advance; return .text (← text)
      else if b = octet '[' then
        if depth = 0 then throw .malformed
        advance
        return .list (← items (value depth))
      else if b = octet '\x7b' then
        if depth = 0 then throw .malformed
        advance
        let member (l : List (String × Value)) : Reader (List (String × Value)) := do
          let key ← text
          colon
          return insertMember key (← value depth) l
        return .object (← members member [])
      else throw .malformed

/-- Passes a string after its opening quote without reading its characters. -/
def skipStringFrom : Nat → Bytes → Except Fault Bytes
  | 0, _ => .error .truncated
  | _ + 1, [] => .error .truncated
  | steps + 1, b :: rest =>
    if b = octet '"' then .ok rest
    else if b = octet '\\' then
      match rest with
      | [] => .error .truncated
      | e :: rest =>
        if e = octet 'u' then do
          let (_, rest) ← fourDigits rest
          skipStringFrom steps rest
        else match shortEscape? e with
          | none => .error .malformed
          | some _ => skipStringFrom steps rest
    else if b < 0x20 then .error .malformed
    else skipStringFrom steps rest

/-- Passes a string after its opening quote. -/
def skipText : Reader Unit := fun s => do
  let rest ← skipStringFrom (s.length + 1) s
  .ok ((), rest)

/-- Passes at least one digit. -/
def skipDigits : Reader Unit := fun s =>
  if (s.takeWhile isDigit).isEmpty then .error .malformed else .ok ((), s.dropWhile isDigit)

/-- Passes an exponent, if one follows. -/
def skipExponent : Reader Unit := do
  match ← get with
  | [] => pure ()
  | b :: rest =>
    if b = octet 'e' ∨ b = octet 'E' then
      match rest with
      | [] => throw .malformed
      | c :: after =>
        set (if c = octet '+' ∨ c = octet '-' then after else rest)
        skipDigits

/-- Passes a number. -/
def skipNumber : Reader Unit := do
  match ← get with
  | b :: rest => if b = octet '-' then set rest
  | [] => pure ()
  match ← get with
  | [] => throw .malformed
  | b :: rest =>
    if b = octet '0' then
      if (rest.head?.map isDigit).getD false then throw .malformed
    skipDigits
  match ← get with
  | [] => pure ()
  | b :: rest =>
    if b = octet '.' then set rest; skipDigits; skipExponent else skipExponent

/-- Passes any value; the first argument bounds the number of steps. -/
def skipFrom : Nat → Reader Unit
  | 0 => throw .malformed
  | steps + 1 => do
    match ← peek with
    | none => throw .truncated
    | some b =>
      if b = octet 'n' then advance; expect ['u', 'l', 'l']
      else if b = octet 't' then advance; expect ['r', 'u', 'e']
      else if b = octet 'f' then advance; expect ['a', 'l', 's', 'e']
      else if b = octet '-' ∨ isDigit b then skipNumber
      else if b = octet '"' then advance; skipText
      else if b = octet '[' then advance; let _ ← items (skipFrom steps)
      else if b = octet '\x7b' then
        advance
        let member (_ : Unit) : Reader Unit := do
          skipText
          colon
          skipFrom steps
        members member ()
      else throw .malformed

/-- Passes any value. -/
def skip : Reader Unit := do skipFrom ((← get).length + 1)

end Reader

/-- The digit of a control's escape. -/
def escapeDigit (n : Nat) : UInt8 := if n < 10 then UInt8.ofNat (0x30 + n) else UInt8.ofNat (0x57 + n)

/-- An octet of a string: quotes, backslashes and controls are escaped. -/
def escapeOctet (b : UInt8) : Bytes :=
  if b = Reader.octet '"' then [Reader.octet '\\', Reader.octet '"']
  else if b = Reader.octet '\\' then [Reader.octet '\\', Reader.octet '\\']
  else if b = 0x08 then [Reader.octet '\\', Reader.octet 'b']
  else if b = 0x0C then [Reader.octet '\\', Reader.octet 'f']
  else if b = 0x0A then [Reader.octet '\\', Reader.octet 'n']
  else if b = 0x0D then [Reader.octet '\\', Reader.octet 'r']
  else if b = 0x09 then [Reader.octet '\\', Reader.octet 't']
  else if b < 0x20 then
    [Reader.octet '\\', Reader.octet 'u', 0x30, 0x30, escapeDigit (b.toNat / 16),
      escapeDigit (b.toNat % 16)]
  else [b]

/-- The octets of characters of ASCII. -/
def ascii (cs : List Char) : Bytes := cs.map Reader.octet

/-- A string in JSON text. -/
def writeText (s : String) : Bytes :=
  Reader.octet '"' :: (Utf8.encode s).flatMap escapeOctet ++ [Reader.octet '"']

/-- Pieces between commas. -/
def commaSeparated : List Bytes → Bytes
  | [] => []
  | [b] => b
  | b :: rest => b ++ Reader.octet ',' :: commaSeparated rest

/-- Pieces as a list. -/
def writeList (items : List Bytes) : Bytes :=
  Reader.octet '[' :: commaSeparated items ++ [Reader.octet ']']

/-- Keys and pieces as an object. -/
def writeObject (members : List (String × Bytes)) : Bytes :=
  Reader.octet '\x7b' ::
    commaSeparated (members.map fun (k, b) => writeText k ++ Reader.octet ':' :: b) ++
    [Reader.octet '\x7d']

/-- The text of a truth value. -/
def writeBool (b : Bool) : Bytes :=
  ascii (if b then ['t', 'r', 'u', 'e'] else ['f', 'a', 'l', 's', 'e'])

/-- The text of nothing. -/
def writeNull : Bytes := ascii ['n', 'u', 'l', 'l']

mutual

/-- The text of a value. -/
def Value.write : Value → Bytes
  | .null => writeNull
  | .bool b => writeBool b
  | .number n => ascii n.toChars
  | .text s => writeText s
  | .list items => writeList (Value.writeItems items)
  | .object members => writeObject (Value.writeMembers members)

/-- The texts of items. -/
def Value.writeItems : List Value → List Bytes
  | [] => []
  | v :: rest => v.write :: Value.writeItems rest

/-- Keys with the texts of their values. -/
def Value.writeMembers : List (String × Value) → List (String × Bytes)
  | [] => []
  | (k, v) :: rest => (k, v.write) :: Value.writeMembers rest

end

end AcmeClient.Json
