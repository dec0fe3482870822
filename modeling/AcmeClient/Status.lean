import AcmeClient.Json.Codec

/-!
# States of resources

Orders, authorizations, challenges and accounts are in one of a few states. Names that are not
known, and resources without a state, count as unknown.
-/

namespace AcmeClient

/-- The state of a resource. -/
inductive Status where
  | pending
  | ready
  | processing
  | valid
  | invalid
  | deactivated
  | expired
  | revoked
  | unknown
  deriving DecidableEq, Repr, Inhabited

namespace Status

/-- All states. -/
def all : List Status :=
  [pending, ready, processing, valid, invalid, deactivated, expired, revoked, unknown]

/-- The name of a state. -/
def name : Status → String
  | pending => "pending"
  | ready => "ready"
  | processing => "processing"
  | valid => "valid"
  | invalid => "invalid"
  | deactivated => "deactivated"
  | expired => "expired"
  | revoked => "revoked"
  | unknown => "unknown"

/-- The state with a name. -/
def ofName (s : String) : Status := (all.find? (·.name = s)).getD unknown

/-- Every state is found by its name. -/
@[simp] theorem ofName_name (s : Status) : ofName s.name = s := by
  cases s <;> decide

/-- Whether the server will not change a state any more. -/
def isFinal : Status → Bool
  | valid | invalid | deactivated | expired | revoked => true
  | _ => false

/-- A state is written as its name, and read from its name or from an object that has the name
as its only key with no value. -/
def codec : Json.Codec Status where
  read depth := do
    match ← Json.Reader.peek with
    | none => throw .truncated
    | some b =>
      if b = Json.Reader.octet '"' then
        Json.Reader.advance
        return ofName (← Json.Reader.text)
      else if b = Json.Reader.octet '\x7b' then
        let status ← Json.Reader.nested depth fun depth => do
          Json.Reader.advance
          let name ← Json.Codec.text.read depth
          Json.Reader.colon
          match ← Json.Reader.peek with
          | some c =>
            if c = Json.Reader.octet 'n' then
              Json.Reader.advance
              Json.Reader.expect ['u', 'l', 'l']
              return ofName name
            else Json.Reader.refuse
          | none => Json.Reader.refuse
        match ← Json.Reader.peek with
        | none => throw .truncated
        | some c =>
          if c = Json.Reader.octet '\x7d' then
            Json.Reader.advance
            return status
          else throw .malformed
      else throw .malformed
  write s := Json.writeText s.name

end Status

end AcmeClient
