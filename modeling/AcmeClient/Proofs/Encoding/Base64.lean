import AcmeClient.Encoding.Base64
import AcmeClient.Proofs.Results
import AcmeClient.Proofs.Text.Cutting

/-!
# Texts in base 64 give the octets back

Every value of six bits has a symbol of its own, and the values of octets determine the octets. So
reading the text of octets in the alphabet for URLs gives the octets back. Such a text has symbols
for URLs only, about four for three octets.
-/

namespace AcmeClient.Base64

/-- Each symbol has its value. -/
theorem value?_symbol (a : Alphabet) : ∀ n < 64, a.value? (a.symbol n) = some n := by
  cases a <;> decide

/-- The values of octets have six bits. -/
theorem lt_of_mem_sextets (b : Bytes) : ∀ n ∈ sextets b, n < 64 := by
  fun_induction sextets b with
  | case1 => simp
  | case2 a =>
    have ha := a.toNat_lt
    simp only [List.mem_cons, List.not_mem_nil, or_false]
    rintro n (rfl | rfl) <;> omega
  | case3 a b =>
    have ha := a.toNat_lt
    have hb := b.toNat_lt
    simp only [List.mem_cons, List.not_mem_nil, or_false]
    rintro n (rfl | rfl | rfl) <;> omega
  | case4 a b c rest ih =>
    have ha := a.toNat_lt
    have hb := b.toNat_lt
    have hc := c.toNat_lt
    simp only [List.mem_cons]
    rintro n (rfl | rfl | rfl | rfl | hn)
    · omega
    · omega
    · omega
    · omega
    · exact ih n hn

/-- An octet is made of the bits that it was split into. -/
theorem ofNat_eq_of_toNat_eq {n : Nat} {a : UInt8} (h : n = a.toNat) : UInt8.ofNat n = a := by
  rw [h, UInt8.ofNat_toNat]

/-- The values of octets give the octets back. There are no bits left over that could be asked to be
zero. -/
theorem octets_sextets (canonical : Bool) (b : Bytes) :
    octets canonical (sextets b) = some b := by
  fun_induction sextets b with
  | case1 => rfl
  | case2 a =>
    have ha : UInt8.ofNat (a.toNat / 4 * 4 + a.toNat % 4 * 16 / 16) = a :=
      ofNat_eq_of_toNat_eq (by omega)
    have hleft : a.toNat % 4 * 16 % 16 = 0 := by omega
    rw [octets, if_neg (by simp [hleft]), ha]
  | case3 a b =>
    have hb := b.toNat_lt
    have hfirst : UInt8.ofNat (a.toNat / 4 * 4 + (a.toNat % 4 * 16 + b.toNat / 16) / 16) = a :=
      ofNat_eq_of_toNat_eq (by omega)
    have hsecond : UInt8.ofNat
        ((a.toNat % 4 * 16 + b.toNat / 16) % 16 * 16 + b.toNat % 16 * 4 / 4) = b :=
      ofNat_eq_of_toNat_eq (by omega)
    have hleft : b.toNat % 16 * 4 % 4 = 0 := by omega
    rw [octets, if_neg (by simp [hleft]), hfirst, hsecond]
  | case4 a b c rest ih =>
    have hb := b.toNat_lt
    have hc := c.toNat_lt
    have hfirst : UInt8.ofNat (a.toNat / 4 * 4 + (a.toNat % 4 * 16 + b.toNat / 16) / 16) = a :=
      ofNat_eq_of_toNat_eq (by omega)
    have hsecond : UInt8.ofNat ((a.toNat % 4 * 16 + b.toNat / 16) % 16 * 16 +
        (b.toNat % 16 * 4 + c.toNat / 64) / 4) = b :=
      ofNat_eq_of_toNat_eq (by omega)
    have hthird : UInt8.ofNat
        ((b.toNat % 16 * 4 + c.toNat / 64) % 4 * 64 + c.toNat % 64) = c :=
      ofNat_eq_of_toNat_eq (by omega)
    rw [octets, ih, hfirst, hsecond, hthird]
    rfl

/-- The symbols of octets have their values. -/
theorem mapM_symbols (a : Alphabet) (b : Bytes) :
    (symbols a b).mapM a.value? = some (sextets b) := by
  refine mapM_eq_some_iff.mpr (List.forall₂_map_left_iff.mpr (List.forall₂_same.mpr ?_))
  exact fun n hn => value?_symbol a n (lt_of_mem_sextets b n hn)

/-- Reading the text of octets gives the octets back. -/
@[simp] theorem decodeUrl?_encodeUrl (b : Bytes) : decodeUrl? (encodeUrl b) = some b := by
  rw [decodeUrl?, encodeUrl, String.toList_ofList, mapM_symbols]
  exact octets_sextets true b

/-- Octets can be told from their text. -/
theorem encodeUrl_injective {b b' : Bytes} (h : encodeUrl b = encodeUrl b') : b = b' := by
  have hdecode := decodeUrl?_encodeUrl b
  rw [h, decodeUrl?_encodeUrl] at hdecode
  exact (Option.some.inj hdecode).symm

/-- Only no octets have an empty text. -/
theorem encodeUrl_eq_empty_iff (b : Bytes) : encodeUrl b = "" ↔ b = [] := by
  constructor
  · intro h
    have hdecode := decodeUrl?_encodeUrl b
    rw [h] at hdecode
    exact (Option.some.inj hdecode).symm
  · rintro rfl
    rfl

/-- Whether a character may stand in a padded text: a symbol of the standard alphabet, or padding.
-/
def IsPadded (c : Char) : Prop := c = '=' ∨ (Alphabet.standard.value? c).isSome = true

instance (c : Char) : Decidable (IsPadded c) := inferInstanceAs (Decidable (_ ∨ _))

/-- The symbols of octets are no padding. -/
theorem ne_padding_of_mem_symbols {a : Alphabet} {b : Bytes} {c : Char} (h : c ∈ symbols a b) :
    c ≠ '=' := by
  have hsymbol : ∀ n < 64, a.symbol n ≠ '=' := by cases a <;> decide
  obtain ⟨n, hn, rfl⟩ := List.mem_map.mp h
  exact hsymbol n (lt_of_mem_sextets b n hn)

/-- A padded text is cut where the padding begins. -/
theorem takeWhile_encodePadded (b : Bytes) :
    (encodePadded b).takeWhile (· ≠ '=') = symbols .standard b := by
  refine (Text.span_append (fun c hc => ?_) fun c hc => ?_).1
  · exact decide_eq_true (ne_padding_of_mem_symbols hc)
  · have hpadding := List.eq_of_mem_replicate (List.mem_of_mem_head? hc)
    exact decide_eq_false (not_not_intro hpadding)

/-- The padding follows the symbols. -/
theorem drop_encodePadded (b : Bytes) : (encodePadded b).drop (symbols .standard b).length =
    List.replicate ((4 - (symbols .standard b).length % 4) % 4) '=' :=
  List.drop_left

/-- Reading the padded text of octets gives the octets back. -/
theorem decodePadded?_encodePadded (b : Bytes) : decodePadded? (encodePadded b) = some b := by
  rw [decodePadded?, takeWhile_encodePadded, drop_encodePadded, if_pos rfl, mapM_symbols]
  exact octets_sextets true b

/-- Reading the padded text of octets gives the octets back, also if the padding may be missing. -/
theorem decodeRelaxed?_encodePadded (b : Bytes) : decodeRelaxed? (encodePadded b) = some b := by
  rw [decodeRelaxed?, takeWhile_encodePadded, drop_encodePadded, if_pos (.inr rfl), mapM_symbols]
  exact octets_sextets false b

/-- A text that is read has symbols and padding only. -/
theorem isPadded_of_decodePadded? {cs : List Char} {b : Bytes} (h : decodePadded? cs = some b) :
    ∀ c ∈ cs, IsPadded c := by
  unfold decodePadded? at h
  dsimp only at h
  split at h
  · rename_i hpadding
    obtain ⟨values, hvalues, -⟩ := Option.bind_eq_some_iff.mp h
    intro c hc
    rw [← List.take_append_drop (cs.takeWhile (· ≠ '=')).length cs, hpadding] at hc
    rcases List.mem_append.mp hc with hc | hc
    · rw [← List.prefix_iff_eq_take.mp (List.takeWhile_prefix _)] at hc
      obtain ⟨n, -, hn⟩ := exists_of_mem_left (mapM_eq_some_iff.mp hvalues) hc
      exact .inr (by rw [hn, Option.isSome_some])
    · exact .inl (List.eq_of_mem_replicate hc)
  · cases h

/-- The padded text of octets has symbols and padding only. -/
theorem isPadded_of_mem_encodePadded {b : Bytes} : ∀ c ∈ encodePadded b, IsPadded c :=
  isPadded_of_decodePadded? (decodePadded?_encodePadded b)

/-- Symbols and padding are graphic characters of ASCII other than hyphens. -/
theorem IsPadded.isGraphic {c : Char} (h : IsPadded c) : 0x20 < c.toNat ∧ c ≠ '-' := by
  have hnone : ∀ n ≤ 0x20, ¬IsPadded (Char.ofNat n) := by decide
  constructor
  · by_contra hle
    exact hnone c.toNat (Nat.le_of_not_lt hle) (by rwa [Char.ofNat_toNat])
  · rintro rfl
    exact absurd h (by decide)

/-- Symbols and padding are in ASCII. -/
theorem IsPadded.isAscii {c : Char} (h : IsPadded c) : c.toNat < 0x80 := by
  have hle {d : Char} (hd : d.toNat < 0x80) (hc : c ≤ d) : c.toNat < 0x80 :=
    Nat.lt_of_le_of_lt (UInt32.le_iff_toNat_le.mp hc) hd
  rcases h with rfl | h
  · decide
  · unfold Alphabet.value? at h
    dsimp only at h
    split at h
    · rename_i hupper
      exact hle (by decide) hupper.2
    · split at h
      · rename_i hlower
        exact hle (by decide) hlower.2
      · split at h
        · rename_i hdigit
          exact hle (by decide) hdigit.2
        · split at h
          · subst c
            decide
          · split at h
            · subst c
              decide
            · cases h

/-- Only no octets have an empty padded text. -/
theorem encodePadded_eq_nil_iff {b : Bytes} : encodePadded b = [] ↔ b = [] := by
  constructor
  · intro h
    have hdecode := decodePadded?_encodePadded b
    rw [h] at hdecode
    exact (Option.some.inj hdecode).symm
  · rintro rfl
    rfl

/-- Whether a character is a symbol for URLs: a letter or digit of ASCII, a hyphen or a low line. -/
def IsUrlSymbol (c : Char) : Prop :=
  ('A' ≤ c ∧ c ≤ 'Z') ∨ ('a' ≤ c ∧ c ≤ 'z') ∨ ('0' ≤ c ∧ c ≤ '9') ∨ c = '-' ∨ c = '_'

instance (c : Char) : Decidable (IsUrlSymbol c) := inferInstanceAs (Decidable (_ ∨ _))

/-- Symbols for URLs are characters of ASCII. -/
theorem IsUrlSymbol.toNat_lt {c : Char} (h : IsUrlSymbol c) : c.toNat < 0x80 := by
  rcases h with ⟨_, h⟩ | ⟨_, h⟩ | ⟨_, h⟩ | rfl | rfl
  · exact Nat.lt_of_le_of_lt h (by decide)
  · exact Nat.lt_of_le_of_lt h (by decide)
  · exact Nat.lt_of_le_of_lt h (by decide)
  · decide
  · decide

/-- Symbols for URLs are no full stops. -/
theorem not_mem_of_isUrlSymbol {cs : List Char} (h : ∀ c ∈ cs, IsUrlSymbol c) : '.' ∉ cs :=
  fun hmem => absurd (h '.' hmem) (by decide)

/-- A text is fit for URLs if it is not empty and has symbols for URLs only. -/
theorem isUrlText_iff (s : String) :
    isUrlText s = true ↔ s ≠ "" ∧ ∀ c ∈ s.toList, IsUrlSymbol c := by
  have hsymbol (c : Char) : (c.isAlphanum || c == '-' || c == '_') = true ↔ IsUrlSymbol c := by
    unfold Char.isAlphanum Char.isAlpha Char.isUpper Char.isLower Char.isDigit IsUrlSymbol
    simp only [Bool.or_eq_true, Bool.and_eq_true, decide_eq_true_eq, beq_iff_eq, or_assoc]
    exact Iff.rfl
  simp only [isUrlText, Bool.and_eq_true, Bool.not_eq_true', List.all_eq_true, hsymbol]
  simp

/-- The text of octets has symbols for URLs only. -/
theorem isUrlSymbol_of_mem_encodeUrl {b : Bytes} : ∀ c ∈ (encodeUrl b).toList, IsUrlSymbol c := by
  have hsymbol : ∀ n < 64, IsUrlSymbol (Alphabet.url.symbol n) := by decide
  rw [encodeUrl, String.toList_ofList]
  intro c hc
  obtain ⟨n, hn, rfl⟩ := List.mem_map.mp hc
  exact hsymbol n (lt_of_mem_sextets b n hn)

/-- Three octets have four values of six bits, and one more is needed for what is left over. -/
theorem length_sextets (b : Bytes) : (sextets b).length = (4 * b.length + 2) / 3 := by
  fun_induction sextets b with
  | case1 => rfl
  | case2 => simp
  | case3 => simp
  | case4 a b c rest ih =>
    simp only [List.length_cons, ih]
    omega

/-- The length of the text of octets. -/
@[simp] theorem length_encodeUrl (b : Bytes) : (encodeUrl b).length = (4 * b.length + 2) / 3 := by
  rw [encodeUrl, String.length_ofList, symbols, List.length_map, length_sextets]

end AcmeClient.Base64
