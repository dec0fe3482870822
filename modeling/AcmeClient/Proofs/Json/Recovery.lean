import AcmeClient.Json.Dictionary
import AcmeClient.Proofs.Json.Digits
import AcmeClient.Proofs.Json.Object
import Mathlib.Data.Set.Function

/-!
# Values that are read back

A codec should read back what it writes, whatever comes after the value that cannot belong to it.
Codecs of lists, dictionaries and optional values do so if those of their parts do; each list or
dictionary takes one level of nesting.
-/

namespace AcmeClient.Json

open Reader

/-- Whether octets start like a value, and neither like nothing nor like the end of a list. -/
def Starts (b : Bytes) : Prop :=
  ∃ first rest, b = first :: rest ∧ isBlank first = false ∧ first ≠ octet 'n' ∧ first ≠ octet ']'

/-- Whether a codec reads a value back from its text, at a nesting depth left. -/
structure Recovers (c : Codec α) (depth : Nat) (v : α) : Prop where
  starts : Starts (c.write v)
  read : ∀ rest, Ends rest → c.read depth (c.write v ++ rest) = .ok (v, rest)

/-- A whole text that is read back stands for its value. -/
theorem Recovers.decode {c : Codec α} {v : α} (h : Recovers c nestingLimit v) :
    c.decode (c.write v) = .ok v := by
  have hread := h.read [] ends_nil
  rw [List.append_nil] at hread
  exact decode_of_read hread

/-- Whether a codec reads back all values of a set. -/
structure Codec.IsFaithfulOn (c : Codec α) (values : Set α) : Prop where
  decode : ∀ v ∈ values, c.decode (c.write v) = .ok v
  injective : Set.InjOn c.write values

/-- What is read back is written in no other value's way. -/
theorem isFaithfulOn_of_recovers {c : Codec α} {values : Set α}
    (h : ∀ v ∈ values, Recovers c nestingLimit v) : c.IsFaithfulOn values where
  decode v hv := (h v hv).decode
  injective v hv w hw heq := by
    have hdecode := (h v hv).decode
    rw [heq, (h w hw).decode] at hdecode
    exact (Except.ok.inj hdecode).symm

/-- One level of nesting is taken. -/
theorem nested_succ (depth : Nat) (r : Nat → Reader α) (s : Bytes) :
    nested (depth + 2) r s = r (depth + 1) s := by
  rw [nested, if_neg (by omega)]
  rfl

/-- Strings are read back. -/
theorem recovers_text (depth : Nat) (s : String) : Recovers .text depth s where
  starts := ⟨octet '"', _, rfl, by decide, by decide, by decide⟩
  read rest _ := by
    change (peek >>= _) (writeText s ++ rest) = _
    rw [writeText_append, bind_of_eq_ok (peek_cons (by decide) _)]
    exact text_flatMap s rest

/-- Truth values are read back. -/
theorem recovers_bool (depth : Nat) (b : Bool) : Recovers .bool depth b where
  starts := by cases b <;> exact ⟨_, _, rfl, by decide, by decide, by decide⟩
  read rest _ := by cases b <;> rfl

/-- A number starts with a digit. -/
theorem starts_digits (n : Nat) : Starts (ascii (Nat.toDigits 10 n)) := by
  cases hdigits : Nat.toDigits 10 n with
  | nil => exact absurd hdigits Nat.toDigits_ne_nil
  | cons c more =>
    have hc : isDigit (octet c) = true := isDigit_octet <|
      Nat.isDigit_of_mem_toDigits (b := 10) (n := n) (by decide) (by decide)
        (by rw [hdigits]; exact List.mem_cons_self)
    have hne : ∀ b, isDigit b = false → octet c ≠ b := by
      intro b hb heq
      rw [heq, hb] at hc
      cases hc
    exact ⟨octet c, _, rfl, (isBlank_of_isDigit hc).1, hne _ (by decide), hne _ (by decide)⟩

/-- Numbers of 64 bits are read back. -/
theorem recovers_uint64 (depth : Nat) (n : UInt64) : Recovers .uint64 depth n where
  starts := starts_digits n.toNat
  read rest h := by
    have hn : n.toNat < Nat.pow 2 64 := n.toNat_lt
    change (natBelow (Nat.pow 2 64) >>= fun n => pure (UInt64.ofNat n))
      (ascii (Nat.toDigits 10 n.toNat) ++ rest) = _
    rw [bind_of_eq_ok (natBelow_digits (Nat.le_sub_one_of_lt hn) hn h), UInt64.ofNat_toNat]
    rfl

/-- Numbers of 16 bits are read back. -/
theorem recovers_uint16 (depth : Nat) (n : UInt16) : Recovers .uint16 depth n where
  starts := starts_digits n.toNat
  read rest h := by
    have hn : n.toNat < Nat.pow 2 16 := n.toNat_lt
    have hlimit : n.toNat ≤ integerLimit := Nat.le_trans (Nat.le_of_lt hn) (by decide)
    change (natBelow (Nat.pow 2 16) >>= fun n => pure (UInt16.ofNat n))
      (ascii (Nat.toDigits 10 n.toNat) ++ rest) = _
    rw [bind_of_eq_ok (natBelow_digits hlimit hn h), UInt16.ofNat_toNat]
    rfl

section Parts

variable {c : Codec α} {depth : Nat} {v : α} {l : List α}

/-- A value that is there is read back. -/
theorem Recovers.option (h : Recovers c depth v) : Recovers c.option depth (some v) where
  starts := h.starts
  read rest hrest := by
    have hread := h.read rest hrest
    obtain ⟨first, more, heq, hblank, hnothing, -⟩ := h.starts
    change (peek >>= _) (c.write v ++ rest) = _
    rw [heq, List.cons_append] at hread ⊢
    rw [bind_of_eq_ok (peek_cons hblank _)]
    dsimp only
    rw [if_neg hnothing, bind_of_eq_ok hread]
    rfl

/-- Nothing is read as nothing. -/
theorem read_null (c : Codec α) (depth : Nat) (rest : Bytes) :
    c.option.read depth (writeNull ++ rest) = .ok (none, rest) := rfl

/-- What follows an item of a list does not belong to it. -/
theorem ends_items (c : Codec α) (l : List α) (rest : Bytes) :
    Ends (l.flatMap (fun v => octet ',' :: c.write v) ++ octet ']' :: rest) := by
  cases l with
  | nil => exact ends_bracket rest
  | cons v l =>
    rw [List.flatMap_cons, List.append_assoc, List.cons_append]
    exact ends_comma _

/-- Items are read up to the closing bracket. -/
theorem itemsFrom_flatMap (hv : Recovers c depth v) (hl : ∀ v ∈ l, Recovers c depth v)
    (rest : Bytes) {steps : Nat} (hsteps : l.length < steps) :
    itemsFrom (c.read depth) steps (c.write v ++
        (l.flatMap (fun v => octet ',' :: c.write v) ++ octet ']' :: rest)) =
      .ok (v :: l, rest) := by
  induction l generalizing v steps with
  | nil =>
    obtain ⟨steps, rfl⟩ := Nat.exists_eq_add_one.mpr hsteps
    rw [itemsFrom, bind_of_eq_ok (hv.read _ (ends_items c [] rest))]
    rfl
  | cons w l ih =>
    obtain ⟨steps, rfl⟩ := Nat.exists_eq_add_one.mpr (Nat.zero_lt_of_lt hsteps)
    obtain ⟨hw, hl⟩ := List.forall_mem_cons.mp hl
    have hmore := ih hw hl (Nat.lt_of_succ_lt_succ hsteps)
    obtain ⟨first, more, heq, hblank, -, hclose⟩ := hw.starts
    rw [itemsFrom, bind_of_eq_ok (hv.read _ (ends_items c (w :: l) rest)), List.flatMap_cons,
      List.append_assoc, List.cons_append, bind_of_eq_ok (peek_cons (by decide) _)]
    rw [heq, List.cons_append] at hmore ⊢
    dsimp only
    rw [if_neg (by decide), if_pos rfl, bind_of_eq_ok (advance_cons _ _),
      bind_of_eq_ok (peek_cons hblank _)]
    dsimp only
    rw [if_neg hclose, bind_of_eq_ok hmore]
    rfl

/-- The text of a list goes on after its opening bracket. -/
theorem writeList_append (l : List Bytes) (rest : Bytes) :
    writeList l ++ rest = octet '[' :: (commaSeparated l ++ octet ']' :: rest) := by
  rw [writeList, List.cons_append, List.cons_append, List.append_assoc]
  rfl

/-- The items of a list are read after its opening bracket. -/
theorem items_commaSeparated (hl : ∀ v ∈ l, Recovers c depth v) (rest : Bytes) :
    items (c.read depth) (commaSeparated (l.map c.write) ++ octet ']' :: rest) =
      .ok (l, rest) := by
  cases l with
  | nil => rfl
  | cons v l =>
    obtain ⟨hv, hl⟩ := List.forall_mem_cons.mp hl
    have hsteps := length_le_length_flatMap (f := fun v => octet ',' :: c.write v)
      (fun _ => Nat.succ_pos _) l
    have hmore : l.length < (c.write v ++
        (l.flatMap (fun v => octet ',' :: c.write v) ++ octet ']' :: rest)).length := by
      rw [List.length_append, List.length_append, List.length_cons]
      omega
    have hitems := itemsFrom_flatMap hv hl rest hmore
    obtain ⟨first, more, heq, hblank, -, hclose⟩ := hv.starts
    rw [List.map_cons, commaSeparated_cons, List.flatMap_map, List.append_assoc]
    rw [heq, List.cons_append] at hitems ⊢
    unfold items
    rw [bind_of_eq_ok (peek_cons hblank _)]
    dsimp only
    rw [if_neg hclose]
    exact hitems

/-- A list is read back if its items are. -/
theorem recovers_list (hl : ∀ v ∈ l, Recovers c (depth + 1) v) :
    Recovers (.list c) (depth + 2) l where
  starts := ⟨octet '[', _, rfl, by decide, by decide, by decide⟩
  read rest _ := by
    change (peek >>= _) (writeList (l.map c.write) ++ rest) = _
    rw [writeList_append, bind_of_eq_ok (peek_cons (by decide) _)]
    dsimp only
    rw [if_pos rfl, nested_succ, bind_of_eq_ok (advance_cons _ _)]
    exact items_commaSeparated hl rest

/-- A member is put behind those with lesser keys. -/
theorem insertMember_concat {key : String} {l : List (String × α)} (h : ∀ m ∈ l, m.1 < key)
    (value : α) : insertMember key value l = l ++ [(key, value)] := by
  induction l with
  | nil => rfl
  | cons m l ih =>
    obtain ⟨hm, hl⟩ := List.forall_mem_cons.mp h
    rw [insertMember_of_gt hm, ih hl, List.cons_append]

/-- The next member of a dictionary is put in its place. -/
def readEntry (c : Codec α) (depth : Nat) (d : Dictionary α) : Reader (Dictionary α) := do
  let key ← text
  colon
  return d.insert key (← c.read depth)

/-- Members in the order of their keys are put behind those with lesser keys. -/
theorem folds_readEntry {d d' : Dictionary α} {todo : List (String × α)}
    (hrecovers : ∀ m ∈ todo, Recovers c depth m.2) (hall : d'.members = d.members ++ todo) :
    Folds (readEntry c depth) (todo.map fun m => (m.1, c.write m.2)) d d' := by
  induction todo generalizing d with
  | nil =>
    obtain ⟨members, sorted⟩ := d
    obtain ⟨members', sorted'⟩ := d'
    obtain rfl : members' = members := hall.trans (List.append_nil members)
    exact .nil
  | cons m todo ih =>
    obtain ⟨hm, htodo⟩ := List.forall_mem_cons.mp hrecovers
    have hbelow : ∀ a ∈ d.members, a.1 < m.1 := by
      have hsorted := d'.sorted
      rw [hall] at hsorted
      exact fun a ha => (List.pairwise_append.mp hsorted).2.2 a ha m List.mem_cons_self
    have hinsert : (d.insert m.1 m.2).members = d.members ++ [m] :=
      insertMember_concat hbelow m.2
    refine .cons (fun rest hrest => ?_) (ih htodo (d := d.insert m.1 m.2) ?_)
    · unfold readEntry
      rw [bind_of_eq_ok (text_afterQuote _ _), bind_of_eq_ok (colon_cons _),
        bind_of_eq_ok (hm.read rest hrest)]
      rfl
    · rw [hinsert, hall, List.append_assoc]
      rfl

/-- A dictionary is read back if its values are. -/
theorem recovers_dictionary {d : Dictionary α} (h : ∀ m ∈ d.members, Recovers c (depth + 1) m.2) :
    Recovers (.dictionary c) (depth + 2) d where
  starts := ⟨octet '\x7b', _, rfl, by decide, by decide, by decide⟩
  read rest _ := by
    have hfolds := folds_readEntry h (d := {}) (List.nil_append d.members).symm
    have hmembers := members_writeObject hfolds rest
    change (peek >>= _) (writeObject (d.members.map fun m => (m.1, c.write m.2)) ++ rest) = _
    rw [writeObject_append, bind_of_eq_ok (peek_cons (by decide) _)]
    dsimp only
    rw [if_pos rfl, nested_succ, bind_of_eq_ok (advance_cons _ _)]
    exact hmembers

end Parts

end AcmeClient.Json
