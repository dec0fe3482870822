import AcmeClient.Proofs.DomainName.Ascii
import AcmeClient.Proofs.Identifier.Rearrangement

/-!
# Values as comparison sees them

Comparison leaves a domain alone that has only characters of lowercase ASCII host names and no full
stop at its end. Bringing it into normal form would change nothing, whether it stands for a domain,
for an address or for nothing at all. So comparison and hashing do not depend on whether a value was
left alone.
-/

namespace AcmeClient.Identifier

open DomainName (toAscii withoutDots)

variable {s : String} {i : Identifier} {c : Char}

/-- Whether a text is the normal form of a name: the domain in ASCII that the name stands for, or
the name in lowercase if it stands for none. -/
inductive IsNormalForm (name : String) : String → Prop
  | domain (ascii : String) (h : toAscii name = .ok ascii) : IsNormalForm name ascii
  | other (e : Error) (h : toAscii name = .error e) : IsNormalForm name (Text.lowercase name)

/-- The value of an identifier that is brought into normal form in any case. -/
def normalizedValue (i : Identifier) : String :=
  if i.isDns then normalizeName (.ofList (withoutDots i.value.toList)) else i.value

/-- A character that needs no normalization is one of host names. -/
theorem isHostChar_of_isPlainChar (h : isPlainChar c = true) : Idna.isHostChar c = true := by
  have hrange (least greatest : UInt32) (hlow : greatest.toNat < 128)
      (h : (decide (c.val ≥ least) && decide (c.val ≤ greatest)) = true) : c.toNat < 128 :=
    (UInt32.le_iff_toNat_le.mp (of_decide_eq_true (Bool.and_eq_true_iff.mp h).2)).trans_lt hlow
  have hascii : c.toNat < 128 := by
    simp only [isPlainChar, Bool.or_eq_true, beq_iff_eq] at h
    rcases h with ((((h | h) | rfl) | rfl) | rfl) | rfl
    · exact hrange _ 'z'.val (by decide) h
    · exact hrange _ '9'.val (by decide) h
    all_goals decide
  have hall : ∀ n : Fin 128, isPlainChar (Char.ofNat n) = true →
      Idna.isHostChar (Char.ofNat n) = true := by decide
  simpa using hall ⟨c.toNat, hascii⟩ (by simpa using h)

/-- A character of host names is in lowercase. -/
theorem lowerChar_of_isHostChar (h : Idna.isHostChar c = true) : Text.lowerChar c = [c] := by
  rw [Text.lowerChar, if_pos (Idna.toNat_lt_of_isHostChar h), Idna.toLower_of_isHostChar h]

/-- Characters of host names are in lowercase wherever they stand. -/
theorem lowerFrom_of_isHostChar {cs : List Char} (h : ∀ c ∈ cs, Idna.isHostChar c = true)
    (before : List Char) : Text.lowerFrom before cs = cs := by
  induction cs generalizing before with
  | nil => rfl
  | cons c cs ih =>
    obtain ⟨hc, hcs⟩ := List.forall_mem_cons.mp h
    have hsigma : c ≠ 'Σ' := by
      rintro rfl
      exact absurd (Idna.toNat_lt_of_isHostChar hc) (by decide)
    rw [Text.lowerFrom, ih hcs, if_neg hsigma, lowerChar_of_isHostChar hc]
    rfl

/-- Text of the characters of host names is in lowercase. -/
theorem lowercase_of_isHostChar (h : ∀ c ∈ s.toList, Idna.isHostChar c = true) :
    Text.lowercase s = s := by
  rw [Text.lowercase, lowerFrom_of_isHostChar h, String.ofList_toList]

/-- Text of the characters of host names is normalized already. -/
theorem normalizeName_of_isHostChar (h : ∀ c ∈ s.toList, Idna.isHostChar c = true) :
    normalizeName s = s := by
  unfold normalizeName
  split
  · rename_i ascii hok
    exact DomainName.toAscii_eq_self h hok
  · exact lowercase_of_isHostChar h

/-- What is cut off a text are characters of it. -/
theorem isHostChar_of_mem_withoutDots {cs : List Char} (h : ∀ c ∈ cs, Idna.isHostChar c = true) :
    ∀ c ∈ withoutDots cs, Idna.isHostChar c = true := by
  obtain ⟨n, hn⟩ := DomainName.exists_eq_withoutDots_append cs
  intro c hc
  exact h c (hn ▸ List.mem_append_left _ hc)

/-- The normal value of a domain is as if it had been brought into normal form in any case. -/
theorem normalValue_of_isDns (hdns : i.isDns = true) :
    i.normalValue = normalizeName (.ofList (withoutDots i.value.toList)) := by
  simp only [normalValue, if_pos hdns]
  split
  · rename_i hplain
    refine (normalizeName_of_isHostChar ?_).symm
    rw [String.toList_ofList]
    exact fun c hc => isHostChar_of_isPlainChar (List.all_eq_true.mp hplain c hc)
  · rfl

/-- The normal value of a domain in ASCII is the domain without full stops at its end. -/
theorem normalValue_of_isHostChar (hdns : i.isDns = true)
    (h : ∀ c ∈ i.value.toList, Idna.isHostChar c = true) :
    i.normalValue = .ofList (withoutDots i.value.toList) := by
  rw [normalValue_of_isDns hdns]
  refine normalizeName_of_isHostChar ?_
  rw [String.toList_ofList]
  exact isHostChar_of_mem_withoutDots h

/-- A value that is left alone is as good as normalized. -/
theorem normalValue_eq_normalizedValue (i : Identifier) : i.normalValue = i.normalizedValue := by
  by_cases hdns : i.isDns = true
  · rw [normalValue_of_isDns hdns, normalizedValue, if_pos hdns]
  · rw [normalValue, normalizedValue, if_neg hdns, if_neg hdns]

/-- Normalization gives the normal form. -/
theorem isNormalForm_normalizeName (name : String) : IsNormalForm name (normalizeName name) := by
  unfold normalizeName
  split
  · exact .domain _ ‹_›
  · exact .other _ ‹_›

/-- A name that needs no normalization is its own normal form and the value that comparison sees.
Identifiers are the same, and hash to the same, just if they do so with their values brought into
normal form. -/
theorem same_iff_normalized (i j : Identifier) :
    (∀ name : String, i.isDns = true → withoutDots i.value.toList = name.toList →
      name.toList.all isPlainChar = true → i.normalValue = name ∧ IsNormalForm name name) ∧
    (i.isDns = true → IsNormalForm (.ofList (withoutDots i.value.toList)) i.normalValue) ∧
    (i.same j = true ↔ i.type = j.type ∧ i.normalizedValue = j.normalizedValue) ∧
    i.key = (i.type, i.normalizedValue) := by
  refine ⟨fun name hdns hname hplain => ?_, fun hdns => ?_, ?_, ?_⟩
  · have hself : normalizeName name = name := normalizeName_of_isHostChar fun c hc =>
      isHostChar_of_isPlainChar (List.all_eq_true.mp hplain c hc)
    have hform := isNormalForm_normalizeName name
    rw [hself] at hform
    refine ⟨?_, hform⟩
    rw [normalValue_of_isDns hdns, hname, String.ofList_toList, hself]
  · rw [normalValue_of_isDns hdns]
    exact isNormalForm_normalizeName _
  · rw [same_iff, key, key, Prod.mk.injEq, normalValue_eq_normalizedValue,
      normalValue_eq_normalizedValue]
  · rw [key, normalValue_eq_normalizedValue]

/-- An address in hexadecimal digits is left alone if they are in lowercase, stands for no domain if
they are not, and is the same either way. -/
theorem same_iff_normalized_hexadecimal :
    (⟨dnsType, "0x7f.1..", none⟩ : Identifier).normalValue = "0x7f.1" ∧
      IsNormalForm "0x7f.1" "0x7f.1" ∧
      IsNormalForm "0X7F.1" (⟨dnsType, "0X7F.1", none⟩ : Identifier).normalValue ∧
      (⟨dnsType, "0x7f.1..", none⟩ : Identifier).same ⟨dnsType, "0X7F.1", none⟩ = true := by
  obtain ⟨hplain, -, hsame, -⟩ :=
    same_iff_normalized ⟨dnsType, "0x7f.1..", none⟩ ⟨dnsType, "0X7F.1", none⟩
  obtain ⟨hvalue, hform⟩ := hplain "0x7f.1" (by decide) (by decide) (by decide)
  have hcapitals :=
    (same_iff_normalized ⟨dnsType, "0X7F.1", none⟩ ⟨dnsType, "0X7F.1", none⟩).2.1 (by decide)
  exact ⟨hvalue, hform, hcapitals, hsame.mpr ⟨rfl, by decide +kernel⟩⟩

end AcmeClient.Identifier
