import AcmeClient.Proofs.Idna.Blanks
import AcmeClient.Proofs.Text.Decoding
import AcmeClient.Url.Host

/-!
# Domains among hosts

A text that stands for a domain stands for an acceptable name in ASCII. A text of such characters
stands for itself, and a full stop at the end of a text is one at the end of the name. Characters of
ASCII part a text to be decoded, so that those which a host cannot hold are found in the name.
-/

namespace AcmeClient

namespace Url

/-- A character that is no percent sign is not decoded. -/
theorem percentDecode_cons {c : Char} (h : c ≠ '%') (cs : List Char) :
    percentDecode (c :: cs) = Utf8.encode (.ofList [c]) ++ percentDecode cs := by
  rw [percentDecode]
  rintro _ _ _ rfl
  exact absurd rfl h

/-- A percent sign without two digits after it is not decoded. -/
theorem percentDecode_percent {hi lo : Char} (cs : List Char)
    (h : ∀ m n, Hex.digitValue? hi = some m → Hex.digitValue? lo = some n → False) :
    percentDecode ('%' :: hi :: lo :: cs) = 0x25 :: percentDecode (hi :: lo :: cs) := by
  rw [percentDecode]
  split
  · exact (h _ _ ‹_› ‹_›).elim
  · rfl

/-- A character is not decoded, and parts the text to be decoded, if it is no percent sign and no
digit of an encoded octet. -/
theorem percentDecode_append_cons {c : Char} (hpercent : c ≠ '%')
    (hdigit : Hex.digitValue? c = none) (front rest : List Char) :
    percentDecode (front ++ c :: rest) =
      percentDecode front ++ (Utf8.encode (.ofList [c]) ++ percentDecode rest) := by
  have hnil := percentDecode_cons hpercent rest
  have hpercent : Utf8.encode (.ofList ['%']) = [0x25] := Utf8.encode_singleton (by decide)
  fun_induction percentDecode front with
  | case1 => exact hnil
  | case2 hi lo front m n hlo hhi ih => simp only [List.cons_append, percentDecode, hhi, hlo, ih]
  | case3 hi lo front hnot ih =>
    rw [List.cons_append, List.cons_append, List.cons_append, percentDecode_percent _ hnot]
    simpa only [List.cons_append] using congrArg (0x25 :: ·) ih
  | case4 d front hnot ih =>
    by_cases hd : d = '%'
    · subst hd
      match front, hnot with
      | [], _ =>
        match rest, hnil with
        | [], hnil =>
          change percentDecode ['%', c] = _
          rw [percentDecode.eq_3 _ _ (by simp), hnil, hpercent]
          rfl
        | lo :: rest, hnil =>
          change percentDecode ('%' :: c :: lo :: rest) = _
          rw [percentDecode_percent _ (by simp [hdigit]), hnil, hpercent]
          rfl
      | [x], _ =>
        change percentDecode ('%' :: x :: c :: rest) = _
        rw [percentDecode_percent _ (by simp [hdigit]), hpercent]
        exact congrArg (0x25 :: ·) ih
      | _ :: _ :: _, hnot => exact (hnot _ _ _ rfl rfl).elim
    · rw [List.cons_append, percentDecode_cons hd, ih, List.append_assoc]

namespace Host

/-- The name in ASCII that the text of a host stands for. -/
def ascii? (text : List Char) : Option (List Char) :=
  Idna.toAscii? (Utf8.decodeLossy (percentDecode text)).toList

variable {text name : List Char} {domain : String}

/-- A character in a text is one in the name to be brought into ASCII, if it is no percent sign and
no digit of an encoded octet. -/
theorem ascii?_append_cons {c : Char} (hpercent : c ≠ '%') (hdigit : Hex.digitValue? c = none)
    (front rest : List Char) : ascii? (front ++ c :: rest) =
      Idna.toAscii? ((Utf8.decodeLossy (percentDecode front)).toList ++
        c :: (Utf8.decodeLossy (percentDecode rest)).toList) := by
  simp only [ascii?, Utf8.decodeLossy, percentDecode_append_cons hpercent hdigit,
    Utf8.decodeFrom_append_encode none (by simp), String.toList_ofList]

/-- A full stop at the end of a text is one at the end of the name. -/
theorem ascii?_concat (text : List Char) :
    ascii? (text ++ ['.']) = (ascii? text).map (· ++ ['.']) := by
  rw [ascii?_append_cons (by decide) (by decide), ascii?, ← Idna.toAscii?_concat]
  rfl

/-- A text with a character that a host cannot hold stands for no name. A percent sign may start an
encoded octet, and the two angle brackets may begin composites. -/
theorem ascii?_of_isForbidden {c : Char} (h : Idna.isForbidden c = true)
    (hsafe : c ∉ ['%', '<', '>']) (hc : c ∈ text) : ascii? text = none := by
  have hall : ∀ n : Fin 128, Idna.isForbidden (Char.ofNat n) = true →
      Hex.digitValue? (Char.ofNat n) = none := by decide
  have hlt := Idna.toNat_lt_of_isForbidden h
  have hdigit : Hex.digitValue? c = none := by simpa using hall ⟨c.toNat, hlt⟩ (by simpa using h)
  obtain ⟨hpercent, hangle⟩ : c ≠ '%' ∧ c ∉ ['<', '>'] := by simpa using hsafe
  obtain ⟨front, rest, rfl⟩ := List.append_of_mem hc
  rw [ascii?_append_cons hpercent hdigit]
  exact Idna.toAscii?_of_mem (Idna.isMappedAmiss_of_isForbidden h hangle)
    (List.mem_append_right _ List.mem_cons_self)

/-- A text with a blank stands for no name. -/
theorem ascii?_of_isBlank {c : Char} (h : Text.isBlank c = true) (hc : c ∈ text) :
    ascii? text = none := by
  have hpercent : c ≠ '%' := by
    rintro rfl
    exact absurd h (by decide)
  have hdigit : Hex.digitValue? c = none := by
    by_cases hlt : c.toNat < 0x80
    · have hall : ∀ n : Fin 128, Text.isBlank (Char.ofNat n) = true →
          Hex.digitValue? (Char.ofNat n) = none := by decide
      simpa only [Char.ofNat_toNat] using hall ⟨c.toNat, hlt⟩ (by simpa using h)
    · have hall : ∀ n ∈ Idna.outerBlanks, Hex.digitValue? (Char.ofNat n) = none := by decide
      simpa only [Char.ofNat_toNat] using hall c.toNat (Idna.mem_outerBlanks h hlt)
  obtain ⟨front, rest, rfl⟩ := List.append_of_mem hc
  rw [ascii?_append_cons hpercent hdigit]
  exact Idna.toAscii?_of_mem (Idna.isMappedAmiss_of_isBlank h)
    (List.mem_append_right _ List.mem_cons_self)

/-- A text of the characters of host names is decoded as it stands. -/
theorem decodeFrom_percentDecode (h : ∀ c ∈ text, Idna.isHostChar c = true) :
    Utf8.decodeFrom none (percentDecode text) = text := by
  induction text with
  | nil => rfl
  | cons c text ih =>
    obtain ⟨hc, htext⟩ := List.forall_mem_cons.mp h
    have hascii := Idna.toNat_lt_of_isHostChar hc
    rw [percentDecode_cons (Idna.ne_of_isHostChar hc (by decide)), Utf8.encode_singleton hascii]
    simp only [List.singleton_append, Utf8.decodeFrom, Utf8.first_ofNat hascii, ih htext]

/-- A text of the characters of host names stands for itself or for nothing. -/
theorem ascii?_of_isHostChar (h : ∀ c ∈ text, Idna.isHostChar c = true) :
    ascii? text = if Idna.isAcceptable text then some text else none := by
  rw [ascii?, Utf8.decodeLossy, String.toList_ofList, decodeFrom_percentDecode h,
    Idna.toAscii?_of_isHostChar h]

/-- What stands between brackets is no domain. -/
theorem ofBracketed_ne_domain (text : List Char) : ofBracketed text ≠ .ok (.domain domain) := by
  unfold ofBracketed
  split
  · split <;> simp
  · simp

/-- A text stands for a domain if its name in ASCII is neither empty nor ends in a number. -/
theorem ofChars_eq_domain_iff : ofChars text = .ok (.domain domain) ↔
    text.head? ≠ some '[' ∧ ascii? text = some domain.toList ∧ domain.toList ≠ [] ∧
      endsInNumber domain.toList = false := by
  unfold ofChars
  by_cases hbracket : text.head? = some '['
  · simp [hbracket, ofBracketed_ne_domain]
  · rw [if_neg hbracket]
    unfold ofName
    rw [← ascii?]
    cases ascii? text with
    | none => simp
    | some name =>
      simp only [ne_eq, hbracket, not_false_eq_true, Option.some.injEq, true_and]
      constructor
      · intro h
        split at h
        · cases h
        · split at h
          · split at h <;> cases h
          · rename_i hne hnumber
            simp only [Except.ok.injEq, Host.domain.injEq] at h
            rw [← h, String.toList_ofList]
            exact ⟨rfl, hne, Bool.eq_false_iff.mpr hnumber⟩
      · rintro ⟨rfl, hne, hnumber⟩
        rw [if_neg hne, hnumber, if_neg Bool.false_ne_true, String.ofList_toList]

/-- A domain is an acceptable name. -/
theorem isAcceptable_of_ofChars (h : ofChars text = .ok (.domain domain)) :
    Idna.isAcceptable domain.toList = true := by
  rw [ofChars_eq_domain_iff] at h
  exact Idna.isAcceptable_of_toAscii? h.2.1

/-- A domain has the characters of host names only. -/
theorem isHostChar_of_ofChars (h : ofChars text = .ok (.domain domain)) :
    ∀ c ∈ domain.toList, Idna.isHostChar c = true :=
  Idna.isHostChar_of_isAcceptable (isAcceptable_of_ofChars h)

/-- A text of the characters of host names stands for no other domain than itself. -/
theorem toList_eq_of_ofChars (h : ∀ c ∈ text, Idna.isHostChar c = true)
    (hdomain : ofChars text = .ok (.domain domain)) : domain.toList = text := by
  rw [ofChars_eq_domain_iff] at hdomain
  have hascii := hdomain.2.1
  rw [ascii?_of_isHostChar h] at hascii
  split at hascii
  · exact (Option.some.inj hascii).symm
  · cases hascii

/-- A full stop more does not put a number at the end of a name. -/
theorem endsInNumber_concat (h : endsInNumber name = false) :
    endsInNumber (name ++ ['.']) = false := by
  have hparts : Text.splitOn '.' (name ++ ['.']) = Text.splitOn '.' name ++ [[]] := by
    rw [Text.splitOn_append_cons]
    rfl
  have hlabels : labels (name ++ ['.']) = Text.splitOn '.' name := by
    simp [labels, hparts]
  unfold endsInNumber at h ⊢
  rw [hlabels]
  by_cases hlast : (Text.splitOn '.' name).getLast? = some []
  · rw [hlast]
    rfl
  · rwa [labels, if_neg hlast] at h

/-- What follows a full stop ends in no number if the whole name does not. -/
theorem endsInNumber_of_append {front rest : List Char}
    (h : endsInNumber (front ++ '.' :: rest) = false) : endsInNumber rest = false := by
  have hne := Text.splitOn_ne_nil '.' rest
  have hlast : (Text.splitOn '.' (front ++ '.' :: rest)).getLast? =
      (Text.splitOn '.' rest).getLast? := by
    rw [Text.splitOn_append_cons, List.getLast?_append_of_ne_nil _ hne]
  unfold endsInNumber labels at h ⊢
  dsimp only at h ⊢
  rw [hlast] at h
  by_cases hempty : (Text.splitOn '.' rest).getLast? = some []
  · rw [if_pos hempty, Text.splitOn_append_cons, List.dropLast_append_of_ne_nil hne] at h
    rw [if_pos hempty]
    by_cases hnil : (Text.splitOn '.' rest).dropLast = []
    · rw [hnil]
      rfl
    · rwa [List.getLast?_append_of_ne_nil _ hnil] at h
  · rw [if_neg hempty, hlast] at h
    rwa [if_neg hempty]

/-- An acceptable name is a domain, and stands for itself, if it is not empty and does not end in a
number. -/
theorem ofChars_of_isAcceptable (h : Idna.isAcceptable name = true) :
    ofChars name = .ok (.domain (.ofList name)) ↔ name ≠ [] ∧ endsInNumber name = false := by
  have hchars := Idna.isHostChar_of_isAcceptable h
  have hfirst : name.head? ≠ some '[' := fun hfirst =>
    absurd (hchars _ (List.mem_of_head? hfirst)) (by decide)
  rw [ofChars_eq_domain_iff, String.toList_ofList, ascii?_of_isHostChar hchars, if_pos h]
  simp [hfirst]

/-- A full stop at the end of a domain is one at the end of its text. -/
theorem ofChars_concat (h : ofChars text = .ok (.domain domain)) :
    ofChars (text ++ ['.']) = .ok (.domain (.ofList (domain.toList ++ ['.']))) := by
  rw [ofChars_eq_domain_iff] at h ⊢
  obtain ⟨hbracket, hascii, -, hnumber⟩ := h
  refine ⟨?_, ?_, ?_, ?_⟩
  · cases text with
    | nil => simp
    | cons c text => exact hbracket
  · rw [ascii?_concat, hascii, String.toList_ofList]
    rfl
  · simp
  · rw [String.toList_ofList]
    exact endsInNumber_concat hnumber

end Host

end Url

end AcmeClient
