import AcmeClient.Der.Primitive
import AcmeClient.Proofs.Crypto.FixedWidth

/-!
# Elements of DER are read back

A reader takes what was written off the front of octets, whatever follows, as long as no element is
longer than readers allow. Readers in a row take what was written in a row, and a constructed
element is read back if its content is, to the end.
-/

namespace AcmeClient.Der

/-- A number fits into the octets that it needs. -/
theorem lt_pow_width (n : Nat) : n < 256 ^ Octets.width n := by
  have hbits : n.log2 + 1 ≤ 8 * Octets.width n := by
    unfold Octets.width
    omega
  calc
    n < 2 ^ (n.log2 + 1) := Nat.lt_log2_self
    _ ≤ 2 ^ (8 * Octets.width n) := Nat.pow_le_pow_right (by decide) hbits
    _ = 256 ^ Octets.width n := by rw [Nat.pow_mul]

/-- A length needs four octets at most. -/
theorem width_le {n : Nat} (h : n ≤ longest) : Octets.width n ≤ 4 := by
  by_cases hn : n = 0
  · rw [hn]
    decide
  · have hlog : n.log2 < 28 := (Nat.log2_lt hn).mpr (Nat.lt_of_le_of_lt h (by decide))
    unfold Octets.width
    omega

/-- The content of an element is not longer than the element. -/
theorem length_le_length_write (tag : UInt8) (content : Bytes) :
    content.length ≤ (write tag content).length := by
  simp only [write, List.length_cons, List.length_append]
  omega

/-- An element has at most six octets more than its content. -/
theorem length_write_le (tag : UInt8) {content : Bytes} (h : content.length ≤ longest) :
    (write tag content).length ≤ content.length + 6 := by
  have hlength : (lengthOctets content.length).length ≤ 5 := by
    unfold lengthOctets
    split
    · exact Nat.le_add_left _ _
    · have hwidth := width_le h
      rw [List.length_cons, Octets.minimal, Octets.length_fixed]
      omega
  simp only [write, List.length_cons, List.length_append]
  omega

namespace Reader

variable {r : Reader α} {f : α → Reader β} {a b content : Bytes} {x : α} {y : β} {tag : UInt8}

/-- Whether a reader takes octets off the front as a value, unless they are too long. -/
def Reads (r : Reader α) (b : Bytes) (x : α) : Prop :=
  b.length ≤ longest → ∀ rest, r (b ++ rest) = some (x, rest)

/-- Whether a reader takes octets to their end as a value, unless they are too long. -/
def ReadsAll (r : Reader α) (b : Bytes) (x : α) : Prop :=
  b.length ≤ longest → r b = some (x, [])

/-- A reader goes on where the one before it has stopped. -/
theorem bind_of_eq_some {s t : Bytes} (h : r s = some (x, t)) : (r >>= f) s = f x t := by
  change (r s).bind (fun p => f p.1 p.2) = f x t
  rw [h, Option.bind_some]

/-- Readers in a row succeed if each of them does. -/
theorem exists_of_bind_eq_some {s t : Bytes} (h : (r >>= f) s = some (y, t)) :
    ∃ x u, r s = some (x, u) ∧ f x u = some (y, t) := by
  obtain ⟨⟨x, u⟩, hx, hy⟩ := Option.bind_eq_some_iff.mp
    (show (r s).bind (fun p => f p.1 p.2) = some (y, t) from h)
  exact ⟨x, u, hx, hy⟩

/-- The tag of an element that is read may occur. -/
theorem isTag_of_element {s rest : Bytes} {e : Element} (h : element s = some (e, rest)) :
    isTag e.tag = true := by
  obtain ⟨⟨tag, n⟩, u, hheader, h⟩ := exists_of_bind_eq_some h
  obtain ⟨content, v, _, h⟩ := exists_of_bind_eq_some h
  cases h
  obtain ⟨t, w, _, hheader⟩ := exists_of_bind_eq_some hheader
  by_cases ht : isTag t = true
  · simp only [ht, Bool.not_true, Bool.false_eq_true, if_false] at hheader
    obtain ⟨m, w', _, hheader⟩ := exists_of_bind_eq_some hheader
    cases hheader
    exact ht
  · simp only [ht, Bool.not_false, if_true] at hheader
    cases hheader

/-- A value that is known takes nothing. -/
theorem Reads.pure (x : α) : Reads (Pure.pure x) [] x := fun _ _ => rfl

/-- Readers in a row take what was written in a row. -/
theorem Reads.bind (h : Reads r a x) (h' : Reads (f x) b y) : Reads (r >>= f) (a ++ b) y := by
  intro hlength rest
  rw [List.length_append] at hlength
  rw [List.append_assoc, bind_of_eq_some (h (by omega) _), h' (by omega)]

/-- What is done with a value takes nothing more. -/
theorem Reads.bind_pure (h : Reads r a x) (h' : f x = Pure.pure y) : Reads (r >>= f) a y := by
  have hboth := h.bind (h' ▸ Reads.pure y)
  rwa [List.append_nil] at hboth

/-- What is taken off the front is taken to the end if nothing follows. -/
theorem Reads.all (h : Reads r b x) : ReadsAll r b x := by
  intro hlength
  have hrest := h hlength []
  rwa [List.append_nil] at hrest

/-- The last of readers in a row takes what is left. -/
theorem Reads.then (h : Reads r a x) (h' : ReadsAll (f x) b y) :
    ReadsAll (r >>= f) (a ++ b) y := by
  intro hlength
  rw [List.length_append] at hlength
  rw [bind_of_eq_some (h (by omega) _), h' (by omega)]

/-- A value that is the one asked for is passed. -/
theorem Reads.then_check [DecidableEq α] {next : Unit → Reader β} (h : Reads r a x)
    (h' : ReadsAll (next ()) b y) :
    ReadsAll (r >>= fun z => if z ≠ x then failure >>= next else next ()) (a ++ b) y := by
  refine h.then ?_
  rw [if_neg (not_not_intro rfl)]
  exact h'

/-- What is done with the last value takes nothing more. -/
theorem ReadsAll.bind_pure (h : ReadsAll r a x) (h' : f x = Pure.pure y) :
    ReadsAll (r >>= f) a y := by
  intro hlength
  rw [bind_of_eq_some (h hlength), h']
  rfl

/-- A whole content is read. -/
theorem ReadsAll.whole_eq (h : ReadsAll r b x) (hlength : b.length ≤ longest) :
    whole r b = some x := by
  rw [whole, h hlength]

/-- As many octets as there are in front are taken off. -/
theorem take_append {n : Nat} (h : a.length = n) (rest : Bytes) :
    take n (a ++ rest) = some (a, rest) := by
  rw [take, if_pos (by rw [List.length_append]; omega), ← h, List.take_left, List.drop_left]

/-- A length in one octet is read back. -/
theorem length_of_short {n : Nat} (h : n < 0x80) (rest : Bytes) :
    Reader.length (lengthOctets n ++ rest) = some (n, rest) := by
  have hnat : (UInt8.ofNat n).toNat = n := UInt8.toNat_ofNat_of_lt' (show n < 256 by omega)
  have hlt : UInt8.ofNat n < 0x80 := by
    rw [UInt8.lt_iff_toNat_lt, hnat]
    exact h
  rw [lengthOctets, if_pos h, Reader.length, List.singleton_append,
    bind_of_eq_some (show octet (UInt8.ofNat n :: rest) = _ from rfl), if_pos hlt, hnat]
  rfl

/-- A length after the number of its octets is read back. -/
theorem length_of_long {n : Nat} (h : ¬n < 0x80) (hn : n ≤ longest) (rest : Bytes) :
    Reader.length (lengthOctets n ++ rest) = some (n, rest) := by
  have hwidth := width_le hn
  have hpos : 0 < Octets.width n := Nat.succ_pos _
  have hnat : (UInt8.ofNat (0x80 + Octets.width n)).toNat = 0x80 + Octets.width n :=
    UInt8.toNat_ofNat_of_lt' (show _ < 256 by omega)
  have hlong : ¬UInt8.ofNat (0x80 + Octets.width n) < 0x80 := by
    rw [UInt8.lt_iff_toNat_lt, hnat]
    exact Nat.not_lt_of_le (Nat.le_add_right _ _)
  have hform : ¬(UInt8.ofNat (0x80 + Octets.width n) < 0x81 ∨
      0x84 < UInt8.ofNat (0x80 + Octets.width n)) := by
    rw [UInt8.lt_iff_toNat_lt, UInt8.lt_iff_toNat_lt, hnat]
    have hleast : (0x81 : UInt8).toNat = 0x81 := rfl
    have hmost : (0x84 : UInt8).toNat = 0x84 := rfl
    omega
  have hwritten : lengthOctets n =
      UInt8.ofNat (0x80 + Octets.width n) :: Octets.minimal n := if_neg h
  have htake : take (Octets.width n) (Octets.minimal n ++ rest) =
      some (Octets.minimal n, rest) := take_append (Octets.length_fixed _ _) rest
  have hvalue : (Octets.minimal n).toNat = n := Octets.toNat_fixed (lt_pow_width n)
  have hfound : ¬(longest < n ∨ lengthOctets n ≠
      UInt8.ofNat (0x80 + Octets.width n) :: Octets.minimal n) := by
    rintro (hlarge | hother)
    · omega
    · exact hother hwritten
  rw [hwritten, Reader.length, List.cons_append, bind_of_eq_some (by rfl), if_neg hlong,
    if_neg hform, hnat, Nat.add_sub_cancel_left]
  dsimp only
  rw [bind_of_eq_some htake, hvalue, if_neg hfound]
  rfl

/-- A length is read back. -/
theorem length_lengthOctets {n : Nat} (h : n ≤ longest) (rest : Bytes) :
    Reader.length (lengthOctets n ++ rest) = some (n, rest) := by
  by_cases hshort : n < 0x80
  · exact length_of_short hshort rest
  · exact length_of_long hshort h rest

/-- An element with a tag that may occur is read back. -/
theorem reads_element (htag : isTag tag = true) :
    Reads element (write tag content) ⟨tag, content⟩ := by
  intro hlength rest
  have hcontent := Nat.le_trans (length_le_length_write tag content) hlength
  have hheader : header (write tag content ++ rest) =
      some ((tag, content.length), content ++ rest) := by
    rw [write, header, List.cons_append, List.cons_append, bind_of_eq_some (by rfl), htag,
      List.append_assoc]
    simp only [Bool.not_true, Bool.false_eq_true, if_false]
    rw [bind_of_eq_some (length_lengthOctets hcontent _)]
    rfl
  rw [element, bind_of_eq_some hheader]
  dsimp only
  rw [bind_of_eq_some (take_append rfl rest)]
  rfl

/-- The content of an element is read back. -/
theorem reads_content (htag : isTag tag = true) :
    Reads (Reader.content tag) (write tag content) content :=
  (reads_element htag).bind_pure (if_pos rfl)

/-- An element is read back if its content is, to the end. -/
theorem reads_within (htag : isTag tag = true) (h : ReadsAll r content x) :
    Reads (within tag r) (write tag content) x := by
  intro hlength rest
  have hcontent := Nat.le_trans (length_le_length_write tag content) hlength
  rw [within, bind_of_eq_some (reads_content htag hlength rest), h.whole_eq hcontent]
  rfl

section Rows

variable {w : γ → Bytes} {g : γ → α} {l : List γ}

/-- Elements in a row are read back to the end, if there are enough steps for them. -/
theorem readsAll_manyFrom (hne : ∀ z ∈ l, w z ≠ []) (h : ∀ z ∈ l, Reads r (w z) (g z))
    {steps : Nat} (hsteps : l.length ≤ steps) :
    ReadsAll (manyFrom r steps) (l.flatMap w) (l.map g) := by
  induction l generalizing steps with
  | nil => intro _; cases steps <;> rfl
  | cons z l ih =>
    intro hlength
    obtain ⟨steps, rfl⟩ : ∃ n, steps = n + 1 := ⟨steps - 1, by simp at hsteps; omega⟩
    obtain ⟨hz, hne⟩ := List.forall_mem_cons.mp hne
    obtain ⟨hread, h⟩ := List.forall_mem_cons.mp h
    have hrest := ih hne h (Nat.le_of_succ_le_succ hsteps)
    have hdone : isDone (w z ++ l.flatMap w) = some (false, w z ++ l.flatMap w) := by
      simp [isDone, hz]
    rw [List.flatMap_cons] at hlength ⊢
    rw [manyFrom, bind_of_eq_some hdone]
    exact hread.then (hrest.bind_pure rfl) hlength

/-- Elements that have octets are not more than their octets. -/
theorem length_le_length_flatMap (hne : ∀ z ∈ l, w z ≠ []) : l.length ≤ (l.flatMap w).length := by
  induction l with
  | nil => exact Nat.le_refl 0
  | cons z l ih =>
    obtain ⟨hz, hne⟩ := List.forall_mem_cons.mp hne
    have hpos := List.length_pos_iff.mpr hz
    have hrest := ih hne
    rw [List.flatMap_cons, List.length_append, List.length_cons]
    omega

/-- Elements in a row are read back to the end. -/
theorem readsAll_many (hne : ∀ z ∈ l, w z ≠ []) (h : ∀ z ∈ l, Reads r (w z) (g z)) :
    ReadsAll (many r) (l.flatMap w) (l.map g) := by
  intro hlength
  rw [many, bind_of_eq_some (by rfl)]
  exact readsAll_manyFrom hne h (length_le_length_flatMap hne) hlength

/-- A sequence of values is read back. -/
theorem reads_list (hne : ∀ z ∈ l, w z ≠ []) (h : ∀ z ∈ l, Reads r (w z) (g z)) :
    Reads (list r) (write 0x30 (l.flatMap w)) (l.map g) :=
  reads_within (by decide) (readsAll_many hne h)

end Rows

/-- An object identifier is read back. -/
theorem reads_oid (h : isOid content = true) : Reads oid (write 0x06 content) content :=
  (reads_content (by decide)).bind_pure (if_pos h)

/-- Zero is read back. -/
theorem reads_small_zero : Reads small (writeNatural 0) 0 := by
  have hinteger : Reads integer (writeNatural 0) [0] := (reads_content (by decide)).bind_pure rfl
  exact hinteger.bind_pure rfl

/-- A whole number of octets is read back. -/
theorem reads_bitString (htag : isTag tag = true) (octets : Bytes) :
    Reads (bitString tag) (write tag (0 :: octets)) (0, octets) :=
  (reads_content htag).bind_pure rfl

/-- A truth value that is written is read back. -/
theorem reads_boolOrFalse_true : Reads boolOrFalse (write 0x01 [0xFF]) true := by
  intro hlength rest
  have hbool : Reads bool (write 0x01 [0xFF]) true := (reads_content (by decide)).bind_pure rfl
  rw [boolOrFalse, bind_of_eq_some (by rfl)]
  exact hbool hlength rest

/-- A truth value that is not written is false: what follows has another tag. -/
theorem reads_boolOrFalse_false {f : Bool → Reader β} (htag : tag ≠ 0x01)
    (h : Reads (f false) (write tag content) y) :
    Reads (boolOrFalse >>= f) (write tag content) y := by
  intro hlength rest
  have hmissing : boolOrFalse (write tag content ++ rest) =
      some (false, write tag content ++ rest) := by
    rw [boolOrFalse, bind_of_eq_some (by rfl), if_neg (by simpa [write] using htag)]
    rfl
  rw [bind_of_eq_some hmissing, h hlength]

section Fields

variable {f : Option α → Reader β} {number : UInt8}

/-- A field is read if it is the next one. -/
theorem reads_tagged (htag : isTag tag = true)
    (hnumber : tag &&& 0xC0 = 0x80 ∧ tag &&& 0x1F = number) (h : Reads r (write tag content) x) :
    Reads (tagged number r) (write tag content) (some x) := by
  intro hlength rest
  have hpeek : peek (write tag content ++ rest) = some (some tag, write tag content ++ rest) := rfl
  have hother : ¬(tag &&& 0xC0 ≠ 0x80 ∨ number < tag &&& 0x1F) := by
    rw [hnumber.1, hnumber.2]
    simp
  unfold tagged
  rw [bind_of_eq_some (by rfl), taggedFrom, bind_of_eq_some hpeek]
  simp only [htag, Bool.not_true, Bool.false_eq_true, if_false, if_neg hother, if_pos hnumber.2]
  rw [bind_of_eq_some (h hlength rest)]
  rfl

/-- A field is missing if one with a higher number is the next. -/
theorem readsAll_of_higher (htag : isTag tag = true) (hnumber : number < tag &&& 0x1F)
    (h : ReadsAll (f none) (write tag content) y) :
    ReadsAll (tagged number r >>= f) (write tag content) y := by
  intro hlength
  have hpeek : peek (write tag content) = some (some tag, write tag content) := rfl
  have hmissing : tagged number r (write tag content) = some (none, write tag content) := by
    unfold tagged
    rw [bind_of_eq_some (by rfl), taggedFrom, bind_of_eq_some hpeek]
    simp only [htag, Bool.not_true, Bool.false_eq_true, if_false, if_pos (Or.inr hnumber)]
    rfl
  rw [bind_of_eq_some hmissing, h hlength]

/-- A field is missing if nothing is left. -/
theorem readsAll_nil (h : ReadsAll (f none) [] y) : ReadsAll (tagged number r >>= f) [] y := by
  intro hlength
  rw [bind_of_eq_some (show tagged number r [] = some (none, []) from rfl), h hlength]

end Fields

end Reader

end AcmeClient.Der
