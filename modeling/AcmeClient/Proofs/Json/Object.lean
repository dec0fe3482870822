import AcmeClient.Proofs.Json.Members

/-!
# Objects in JSON text

The text of an object is read member by member. If every member's value is read back, so is the
object, with its members in the order of their keys.
-/

namespace AcmeClient.Json

open Reader

/-- Whether octets are read as a value, whatever comes after them. The first argument bounds the
depth of the value. -/
def Reads (depth : Nat) (b : Bytes) (v : Value) : Prop :=
  ∀ rest, value depth (b ++ rest) = .ok (v, rest)

/-- A whole text that is read as a value stands for it. -/
theorem decode_of_reads {b : Bytes} {v : Value} (h : Reads nestingLimit b v) :
    Codec.value.decode b = .ok v := by
  have hb := h []
  rw [List.append_nil] at hb
  exact decode_of_read hb

/-- A string is read back. -/
theorem reads_text (depth : Nat) (s : String) :
    Reads (depth + 1) (Value.text s).write (.text s) := by
  intro rest
  rw [Value.write, writeText_append, value, bind_of_eq_ok (peek_cons (by decide) _)]
  change (do
    advance
    return .text (← text) : Reader Value) _ = _
  rw [bind_of_eq_ok (advance_cons _ _), bind_of_eq_ok (text_flatMap s rest)]
  rfl

/-- The members of an object are written one after another. -/
theorem writeMembers_eq (members : List (String × Value)) :
    Value.writeMembers members = members.map fun m => (m.1, m.2.write) := by
  induction members with
  | nil => rw [Value.writeMembers, List.map_nil]
  | cons m members ih => rw [Value.writeMembers, List.map_cons, ih]

/-- The next member is put in its place. -/
def readMember (depth : Nat) (l : List (String × Value)) : Reader (List (String × Value)) := do
  let key ← text
  colon
  return insertMember key (← value depth) l

/-- The first member is put anywhere. -/
theorem insertMember_nil (key : String) (value : α) :
    insertMember key value [] = [(key, value)] := rfl

/-- A member is put before the first one with a greater key. -/
theorem insertMember_of_lt {key k : String} (h : key < k) (value v : α) (rest : List (String × α)) :
    insertMember key value ((k, v) :: rest) = (key, value) :: (k, v) :: rest := by
  rw [insertMember, if_pos h]

/-- A member is put after those with lesser keys. -/
theorem insertMember_of_gt {key k : String} (h : k < key) (value v : α) (rest : List (String × α)) :
    insertMember key value ((k, v) :: rest) = (k, v) :: insertMember key value rest := by
  have hlt : ¬key < k := fun hlt => String.lt_irrefl k (String.lt_trans h hlt)
  have hne : ¬key = k := fun heq => String.lt_irrefl k (heq ▸ h)
  rw [insertMember, if_neg hlt, if_neg hne]

/-- Members are put in their places one after another. -/
def collect (members l : List (String × Value)) : List (String × Value) :=
  members.foldl (fun l m => insertMember m.1 m.2 l) l

variable {depth : Nat} {members l : List (String × Value)}

/-- Members whose values are read back are put in their places. -/
theorem folds_readMember (h : ∀ m ∈ members, Reads depth m.2.write m.2) :
    Folds (readMember depth) (Value.writeMembers members) l (collect members l) := by
  rw [writeMembers_eq]
  induction members generalizing l with
  | nil => exact .nil
  | cons m members ih =>
    obtain ⟨hm, hmembers⟩ := List.forall_mem_cons.mp h
    refine .cons (fun rest _ => ?_) (ih hmembers)
    unfold readMember
    rw [bind_of_eq_ok (text_afterQuote _ _), bind_of_eq_ok (colon_cons _),
      bind_of_eq_ok (hm rest)]
    rfl

/-- An object is read back if the values of its members are. -/
theorem reads_object (h : ∀ m ∈ members, Reads (depth + 1) m.2.write m.2) :
    Reads (depth + 2) (Value.write (.object members)) (.object (collect members [])) := by
  intro rest
  have hmembers := members_writeObject (folds_readMember h (l := [])) rest
  rw [Value.write, writeObject_append, value, bind_of_eq_ok (peek_cons (by decide) _)]
  change (do
    advance
    return .object (← Reader.members (readMember (depth + 1)) []) : Reader Value) _ = _
  rw [bind_of_eq_ok (advance_cons _ _), bind_of_eq_ok hmembers]
  rfl

end AcmeClient.Json
