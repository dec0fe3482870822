import AcmeClient.Proofs.Identifier.NormalValue

/-!
# Spellings of a domain

A domain that was made an identifier may come back as it was written. It is recognized if the full
stops at its end are written as such, so that they can be cut off before anything else is brought
into normal form. The normal value of a made identifier is final in any case.
-/

namespace AcmeClient.Identifier

open DomainName (toAscii withoutDots)

variable {s : String} {i : Identifier} {c : Char}

/-- The identifier of a domain as it is written. -/
def verbatim (s : String) : Identifier := { type := dnsType, value := s }

/-- Whether a value is normal: it does not end in a full stop and is its own normal value. -/
def IsNormal (value : String) : Prop :=
  value.toList.getLast? ≠ some '.' ∧ (verbatim value).normalValue = value

/-- Whether the text that an identifier was made from is the same identifier, to comparison and to
hashing, and both have normal values. -/
structure IsRecognized (s : String) (i : Identifier) : Prop where
  same : (verbatim s).same i = true
  key_eq : (verbatim s).key = i.key
  isNormal : IsNormal (verbatim s).normalValue
  isNormal_made : IsNormal i.normalValue

/-- Whether no full stop remains at the end of a domain once those written as such are cut off: what
is left needs no normalization, or has no full stop at its end in ASCII, or stands for no domain and
is, in lowercase, the normal value of the identifier. -/
inductive EndsOpenly (s : String) (i : Identifier) : Prop where
  | plain (h : (withoutDots s.toList).all isPlainChar = true)
  | domain (ascii : String) (h : toAscii (.ofList (withoutDots s.toList)) = .ok ascii)
      (hlast : ascii.toList.getLast? ≠ some '.')
  | other (e : Error) (h : toAscii (.ofList (withoutDots s.toList)) = .error e)
      (heq : Text.lowercase (.ofList (withoutDots s.toList)) = i.normalValue)

/-- Text of the characters of host names is normal if it does not end in a full stop. -/
theorem isNormal_of_isHostChar (h : ∀ c ∈ s.toList, Idna.isHostChar c = true)
    (hlast : s.toList.getLast? ≠ some '.') : IsNormal s := by
  refine ⟨hlast, (normalValue_of_isHostChar (i := verbatim s) rfl h).trans ?_⟩
  rw [verbatim, DomainName.withoutDots_eq_self_iff.mpr hlast, String.ofList_toList]

/-- A made identifier names a domain in ASCII. -/
theorem exists_of_dns (h : dns s = .ok i) :
    ∃ ascii, toAscii s = .ok ascii ∧ i = verbatim ascii := by
  obtain ⟨ascii, hascii, h⟩ := bind_eq_ok h
  cases h
  exact ⟨ascii, hascii, rfl⟩

/-- The normal value of a made identifier is its value without full stops at its end. -/
theorem normalValue_of_dns (h : dns s = .ok i) :
    i.normalValue = .ofList (withoutDots i.value.toList) := by
  obtain ⟨ascii, hascii, rfl⟩ := exists_of_dns h
  exact normalValue_of_isHostChar rfl (DomainName.isHostChar_of_toAscii hascii)

/-- The normal value of a made identifier is final. -/
theorem isNormal_of_dns (h : dns s = .ok i) : IsNormal i.normalValue := by
  obtain ⟨ascii, hascii, rfl⟩ := exists_of_dns h
  rw [normalValue_of_dns h]
  have hchars := isHostChar_of_mem_withoutDots (DomainName.isHostChar_of_toAscii hascii)
  refine isNormal_of_isHostChar ?_ ?_ <;> rw [String.toList_ofList]
  · exact hchars
  · exact DomainName.getLast?_withoutDots_ne _

/-- A text whose full stops at the end are cut off in part stands for the same domain as the whole
text, up to full stops. -/
theorem withoutDots_eq_of_toAscii {ascii : String} (h : dns s = .ok i)
    (hok : toAscii (.ofList (withoutDots s.toList)) = .ok ascii) :
    withoutDots i.value.toList = withoutDots ascii.toList := by
  obtain ⟨whole, hwhole, rfl⟩ := exists_of_dns h
  obtain ⟨n, hn⟩ := DomainName.exists_eq_withoutDots_append s.toList
  rw [← String.ofList_toList (s := s), hn] at hwhole
  rw [verbatim, DomainName.toList_eq_append_replicate hok hwhole,
    DomainName.withoutDots_append_replicate]

/-- A text that needs no normalization but for full stops at its end is a domain in ASCII. -/
theorem normalValue_of_plain (h : dns s = .ok i)
    (hplain : (withoutDots s.toList).all isPlainChar = true) :
    i.normalValue = .ofList (withoutDots s.toList) := by
  obtain ⟨whole, hwhole, rfl⟩ := exists_of_dns h
  have hchars : ∀ c ∈ s.toList, Idna.isHostChar c = true := by
    obtain ⟨n, hn⟩ := DomainName.exists_eq_withoutDots_append s.toList
    rw [hn]
    intro c hc
    rcases List.mem_append.mp hc with hc | hc
    · exact isHostChar_of_isPlainChar (List.all_eq_true.mp hplain c hc)
    · rw [List.eq_of_mem_replicate hc]
      decide
  rw [normalValue_of_dns h, DomainName.toAscii_eq_self hchars hwhole, verbatim]

/-- A domain is recognized in a text with the same normal value. -/
theorem isRecognized_iff (h : dns s = .ok i) :
    IsRecognized s i ↔ (verbatim s).normalValue = i.normalValue := by
  have htype : (verbatim s).type = i.type := by
    obtain ⟨_, _, rfl⟩ := exists_of_dns h
    rfl
  have hnormal := isNormal_of_dns h
  constructor
  · intro hrec
    exact congrArg Prod.snd hrec.key_eq
  · intro heq
    have hkey : (verbatim s).key = i.key := by rw [key, key, htype, heq]
    exact ⟨(same_iff _ _).mpr hkey, hkey, heq ▸ hnormal, hnormal⟩

/-- A domain is recognized in the text that it was made from exactly if the full stops at the end
of the text are written as such. -/
theorem isRecognized_iff_endsOpenly (h : dns s = .ok i) :
    IsRecognized s i ↔ EndsOpenly s i := by
  rw [isRecognized_iff h]
  by_cases hplain : (withoutDots s.toList).all isPlainChar = true
  · have hvalue : (verbatim s).normalValue = .ofList (withoutDots s.toList) :=
      (if_pos rfl).trans (if_pos hplain)
    exact iff_of_true (hvalue.trans (normalValue_of_plain h hplain).symm) (.plain hplain)
  · have hvalue : (verbatim s).normalValue = normalizeName (.ofList (withoutDots s.toList)) :=
      (if_pos rfl).trans (if_neg hplain)
    rw [hvalue, normalizeName]
    cases hok : toAscii (.ofList (withoutDots s.toList)) with
    | ok ascii =>
      have hdots := withoutDots_eq_of_toAscii h hok
      rw [normalValue_of_dns h, hdots, ← String.toList_inj, String.toList_ofList, eq_comm,
        DomainName.withoutDots_eq_self_iff]
      constructor
      · exact .domain ascii hok
      · rintro (hp | ⟨ascii', hok', hlast⟩ | ⟨_, he, _⟩)
        · exact absurd hp hplain
        · rwa [Except.ok.inj (hok.symm.trans hok')]
        · exact nomatch hok.symm.trans he
    | error e =>
      constructor
      · exact .other e hok
      · rintro (hp | ⟨_, hok', _⟩ | ⟨_, _, heq⟩)
        · exact absurd hp hplain
        · exact nomatch hok.symm.trans hok'
        · exact heq

/-- Capital letters and a full stop at the end do not keep a domain from being recognized. -/
theorem isRecognized_capitals :
    dns "WWW.Example.org." = .ok (verbatim "www.example.org.") ∧
      IsRecognized "WWW.Example.org." (verbatim "www.example.org.") := by
  have hdns : dns "WWW.Example.org." = .ok (verbatim "www.example.org.") := by decide +kernel
  exact ⟨hdns, (isRecognized_iff_endsOpenly hdns).mpr
    (.domain "www.example.org" (by decide +kernel) (by decide))⟩

/-- A full stop behind which a blank stands is not cut off, so that the domain is not recognized in
the text that it was made from. -/
theorem not_isRecognized_blank :
    dns "example.org. " = .ok (verbatim "example.org.") ∧
      (verbatim "example.org. ").same (verbatim "example.org.") = false := by
  decide +kernel

end AcmeClient.Identifier
