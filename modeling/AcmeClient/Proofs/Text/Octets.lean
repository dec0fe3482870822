import AcmeClient.Text.Utf8

/-!
# Octets of texts

The octets of a text are those of its parts, one after the other, and each character of ASCII is one
octet.
-/

namespace AcmeClient.Utf8

/-- The octets of two texts together. -/
theorem encode_append (s t : String) : encode (s ++ t) = encode s ++ encode t := by
  simp [encode, String.toUTF8, String.toByteArray_append]

/-- The octets of a text of one character. -/
theorem encode_ofList_singleton (c : Char) : encode (.ofList [c]) = String.utf8EncodeChar c := by
  rw [encode, String.toUTF8, String.toByteArray_ofList, List.utf8Encode_singleton,
    List.data_toByteArray]

/-- A character of ASCII is one octet. -/
theorem encode_singleton {c : Char} (h : c.toNat < 0x80) :
    encode (.ofList [c]) = [UInt8.ofNat c.toNat] := by
  have hsize : c.utf8Size = 1 := Char.utf8Size_eq_one_iff.mpr (Nat.le_of_lt_succ h)
  rw [encode_ofList_singleton, String.utf8EncodeChar_eq_singleton hsize]
  rfl

/-- A text of ASCII has an octet for each character. -/
theorem encode_ofList {cs : List Char} (h : ∀ c ∈ cs, c.toNat < 0x80) :
    encode (.ofList cs) = cs.map fun c => UInt8.ofNat c.toNat := by
  induction cs with
  | nil => rfl
  | cons c cs ih =>
    obtain ⟨hc, hcs⟩ := List.forall_mem_cons.mp h
    rw [← List.singleton_append, String.ofList_append, encode_append, encode_singleton hc, ih hcs]
    rfl

/-- A text of ASCII is read back from its octets one by one. -/
theorem map_ofUInt8_encode {s : String} (h : ∀ c ∈ s.toList, c.toNat < 0x80) :
    (encode s).map Char.ofUInt8 = s.toList := by
  have hback (c : Char) (hc : c.toNat < 0x80) : Char.ofUInt8 (UInt8.ofNat c.toNat) = c := by
    refine Char.toNat_inj.mp ?_
    have hnat : (Char.ofUInt8 (UInt8.ofNat c.toNat)).toNat = (UInt8.ofNat c.toNat).toNat :=
      UInt8.toNat_toUInt32 _
    rw [hnat, UInt8.toNat_ofNat_of_lt' (show _ < 256 by omega)]
  rw [← String.ofList_toList (s := s), encode_ofList h, String.toList_ofList, List.map_map]
  exact (List.map_congr_left fun c hc => hback c (h c hc)).trans (List.map_id _)

/-- The octets of a character outside ASCII are not all octets of ASCII. -/
theorem exists_of_encode_singleton {c : Char} (h : 0x80 ≤ c.toNat) :
    ∃ b ∈ encode (.ofList [c]), ¬b < 0x80 := by
  have hhigh {n k : Nat} (hk : 0x80 ≤ k) (hn : n + k < 256) : ¬UInt8.ofNat (n + k) < 0x80 := by
    rw [UInt8.lt_iff_toNat_lt, UInt8.toNat_ofNat_of_lt' hn]
    exact Nat.not_lt_of_le (Nat.le_trans hk (Nat.le_add_left k n))
  rw [encode_ofList_singleton]
  change 0x80 ≤ c.val.toNat at h
  unfold String.utf8EncodeChar
  dsimp only
  rw [if_neg (by omega)]
  split
  · exact ⟨_, List.mem_cons_self, hhigh (by decide) (by omega)⟩
  · split
    · exact ⟨_, List.mem_cons_self, hhigh (by decide) (by omega)⟩
    · exact ⟨_, List.mem_cons_self, hhigh (by decide) (by omega)⟩

/-- The octets of a text are octets of ASCII if all its characters are in ASCII, and else not. -/
theorem encode_lt_iff (s : String) :
    (∀ b ∈ encode s, b < 0x80) ↔ ∀ c ∈ s.toList, c.toNat < 0x80 := by
  constructor
  · intro h c hc
    refine Decidable.byContradiction fun hlarge => ?_
    obtain ⟨b, hb, hbad⟩ := exists_of_encode_singleton (Nat.le_of_not_lt hlarge)
    obtain ⟨front, rest, hsplit⟩ := List.append_of_mem hc
    have hs : s = .ofList front ++ (.ofList [c] ++ .ofList rest) := by
      rw [← String.ofList_append, ← String.ofList_append, List.singleton_append, ← hsplit,
        String.ofList_toList]
    rw [hs, encode_append, encode_append] at h
    exact hbad (h b (List.mem_append_right _ (List.mem_append_left _ hb)))
  · intro h b hb
    rw [← String.ofList_toList (s := s), encode_ofList h] at hb
    obtain ⟨c, hc, rfl⟩ := List.mem_map.mp hb
    have hlt := h c hc
    rw [UInt8.lt_iff_toNat_lt, UInt8.toNat_ofNat_of_lt' (show _ < 256 by omega)]
    exact hlt

/-- Characters of ASCII can be told from their octets. -/
theorem octet_eq_iff {c d : Char} (hc : c.toNat < 0x80) (hd : d.toNat < 0x80) :
    UInt8.ofNat c.toNat = UInt8.ofNat d.toNat ↔ c = d := by
  constructor
  · intro h
    have hnat := congrArg UInt8.toNat h
    rw [UInt8.toNat_ofNat_of_lt' (show _ < 256 by omega),
      UInt8.toNat_ofNat_of_lt' (show _ < 256 by omega)] at hnat
    exact Char.toNat_inj.mp hnat
  · rintro rfl
    rfl

section Ascii

variable {s : String} {c : Char}

/-- A character of ASCII is in a text of ASCII if its octet is among the octets. -/
theorem mem_encode_iff (h : ∀ d ∈ s.toList, d.toNat < 0x80) (hc : c.toNat < 0x80) :
    UInt8.ofNat c.toNat ∈ encode s ↔ c ∈ s.toList := by
  rw [← String.ofList_toList (s := s), encode_ofList h, String.toList_ofList, List.mem_map]
  constructor
  · rintro ⟨d, hd, heq⟩
    rwa [← (octet_eq_iff (h d hd) hc).mp heq]
  · exact fun hmem => ⟨c, hmem, rfl⟩

/-- A text of ASCII begins with a character of ASCII if the octets begin with its octet. -/
theorem head?_encode_eq_iff (h : ∀ d ∈ s.toList, d.toNat < 0x80) (hc : c.toNat < 0x80) :
    (encode s).head? = some (UInt8.ofNat c.toNat) ↔ s.toList.head? = some c := by
  rw [← String.ofList_toList (s := s), encode_ofList h, String.toList_ofList, List.head?_map,
    Option.map_eq_some_iff]
  constructor
  · rintro ⟨d, hd, heq⟩
    rwa [← (octet_eq_iff (h d (List.mem_of_head? hd)) hc).mp heq]
  · exact fun hhead => ⟨c, hhead, rfl⟩

end Ascii

end AcmeClient.Utf8
