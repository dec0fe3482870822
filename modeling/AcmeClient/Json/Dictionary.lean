import AcmeClient.Json.Codec

/-!
# Dictionaries

A dictionary maps keys to values and lists its members in the order of the keys, so two
dictionaries with the same members are equal. Inserting keeps the order.
-/

namespace AcmeClient.Json

/-- Keys with values, sorted by key. -/
structure Dictionary (α : Type) where
  members : List (String × α) := []
  sorted : members.Pairwise (fun a b => a.1 < b.1) := by simp
  deriving Repr

namespace Dictionary

instance [DecidableEq α] : DecidableEq (Dictionary α)
  | ⟨a, _⟩, ⟨b, _⟩ =>
    if h : a = b then .isTrue (by subst h; rfl) else .isFalse (fun e => h (Dictionary.mk.inj e))

/-- The members after an insertion are the inserted one and old ones. -/
theorem mem_insertMember {key : String} {value : α} {l : List (String × α)} {m : String × α}
    (h : m ∈ insertMember key value l) : m = (key, value) ∨ m ∈ l := by
  induction l with
  | nil => simpa [insertMember] using h
  | cons head tail ih =>
    obtain ⟨k, v⟩ := head
    unfold insertMember at h
    split at h
    · simpa using h
    · split at h
      · rcases List.mem_cons.mp h with h | h
        · exact .inl h
        · exact .inr (List.mem_cons_of_mem _ h)
      · rcases List.mem_cons.mp h with h | h
        · exact .inr (h ▸ List.mem_cons_self)
        · exact (ih h).imp_right (List.mem_cons_of_mem _)

/-- Insertion keeps the members sorted. -/
theorem sorted_insertMember (key : String) (value : α) {l : List (String × α)}
    (h : l.Pairwise (fun a b => a.1 < b.1)) :
    (insertMember key value l).Pairwise (fun a b => a.1 < b.1) := by
  induction l with
  | nil => simp [insertMember]
  | cons head tail ih =>
    obtain ⟨k, v⟩ := head
    have ⟨hk, ht⟩ := List.pairwise_cons.mp h
    unfold insertMember
    split
    · next hlt =>
      refine List.pairwise_cons.mpr ⟨fun m hm => ?_, h⟩
      rcases List.mem_cons.mp hm with hm | hm
      · exact hm ▸ hlt
      · exact String.lt_trans hlt (hk m hm)
    · next hlt =>
      split
      · next heq => exact List.pairwise_cons.mpr ⟨fun m hm => heq ▸ hk m hm, ht⟩
      · next hne =>
        refine List.pairwise_cons.mpr ⟨fun m hm => ?_, ih ht⟩
        rcases mem_insertMember hm with hm | hm
        · subst hm
          exact String.not_le.mp fun hle => hne (String.le_antisymm hle (String.not_lt.mp hlt))
        · exact hk m hm

/-- The dictionary with a member added or replaced. -/
def insert (d : Dictionary α) (key : String) (value : α) : Dictionary α :=
  ⟨insertMember key value d.members, sorted_insertMember key value d.sorted⟩

/-- Whether a key has a value. -/
def contains (d : Dictionary α) (key : String) : Bool := d.members.any (·.1 = key)

/-- Whether no key has a value. -/
def isEmpty (d : Dictionary α) : Bool := d.members.isEmpty

end Dictionary

/-- Objects with any keys; of members with the same key the last one counts. -/
def Codec.dictionary (c : Codec α) : Codec (Dictionary α) where
  read depth := do
    match ← Reader.peek with
    | none => throw .truncated
    | some b =>
      if b = Reader.octet '\x7b' then
        Reader.nested depth fun depth => do
          Reader.advance
          let member (d : Dictionary α) : Reader (Dictionary α) := do
            let key ← Reader.text
            Reader.colon
            return d.insert key (← c.read depth)
          Reader.members member {}
      else Reader.refuse
  write d := writeObject (d.members.map fun (k, v) => (k, c.write v))

end AcmeClient.Json
