import AcmeClient.Proofs.DomainName.Ascii

/-!
# Names that are brought into ASCII again

A name in ASCII is final if a domain is left of it without a wildcard label in front and a full stop
at its end. Both are set aside before a text is brought into ASCII, so that a full stop that is only
found in ASCII, or an asterisk, may be all that is left, or may stand behind a number.
-/

namespace AcmeClient.DomainName

open Url (Host)

variable {s ascii : String} {cs : List Char}

/-- The wildcard label is set aside exactly if the name begins with it. -/
theorem splitWildcard_fst_eq_iff : (splitWildcard cs).1 = wildcard ↔ wildcard <+: cs := by
  constructor
  · intro h
    exact ⟨(splitWildcard cs).2, h ▸ splitWildcard_append cs⟩
  · rintro ⟨rest, rfl⟩
    rw [splitWildcard_append_left]

/-- Whether a domain may be left of a name without a wildcard label in front and a full stop at its
end: something is left, and it does not end in a number. -/
structure LeavesDomain (cs : List Char) : Prop where
  ne_nil : stem cs ≠ []
  endsInNumber : Host.endsInNumber (stem cs) = false

/-- Whether a name in ASCII is final: it stands for itself, has a wildcard label in front just if
the trimmed text or the domain in it has one, and has no blanks. -/
structure IsFinal (s ascii : String) : Prop where
  fixed : toAscii ascii = .ok ascii
  keepsLabel : ∃ domain, Host.ofChars (stem (Text.trimChars s.toList)) = .ok (.domain domain) ∧
    (wildcard <+: ascii.toList ↔
      wildcard <+: Text.trimChars s.toList ∨ wildcard <+: domain.toList)
  noBlanks : ∀ c ∈ ascii.toList, Text.isBlank c = false

/-- Whether a name is a domain unless it is empty: it is acceptable and does not end in a number. -/
structure FitsDomain (cs : List Char) : Prop where
  isAcceptable : Idna.isAcceptable cs = true
  endsInNumber : Host.endsInNumber cs = false

/-- A domain fits with the full stop that was set aside, if any. -/
theorem fitsDomain_append_splitDot {text : List Char} {domain : String}
    (h : Host.ofChars text = .ok (.domain domain)) (cs : List Char) :
    FitsDomain (domain.toList ++ (splitDot cs).2) := by
  have hacceptable := Host.isAcceptable_of_ofChars h
  rw [Host.ofChars_eq_domain_iff] at h
  have hnumber := h.2.2.2
  rcases splitDot_snd cs with hdot | hdot <;> rw [hdot]
  · rw [List.append_nil]
    exact ⟨hacceptable, hnumber⟩
  · exact ⟨(Idna.isAcceptable_concat _).trans hacceptable, Host.endsInNumber_concat hnumber⟩

/-- What stands behind a wildcard label fits if the whole name does. -/
theorem FitsDomain.splitWildcard (h : FitsDomain cs) : FitsDomain (splitWildcard cs).2 := by
  by_cases hwild : wildcard <+: cs
  · obtain ⟨rest, rfl⟩ := hwild
    rw [splitWildcard_append_left]
    have hstop : wildcard ++ rest = ['*'] ++ '.' :: rest := rfl
    rw [hstop] at h
    exact ⟨Idna.isAcceptable_of_append h.isAcceptable, Host.endsInNumber_of_append h.endsInNumber⟩
  · rwa [splitWildcard_of_unmarked hwild]

/-- What stands behind the wildcard label of a name in ASCII fits. -/
theorem fitsDomain_of_toAscii (h : toAscii s = .ok ascii) :
    FitsDomain (splitWildcard ascii.toList).2 := by
  rw [toAscii_eq_ok_iff] at h
  obtain ⟨domain, hdomain, hascii⟩ := h
  have hfits := fitsDomain_append_splitDot hdomain (splitWildcard (Text.trimChars s.toList)).2
  rw [List.append_assoc] at hascii
  rw [hascii]
  rcases splitWildcard_fst (Text.trimChars s.toList) with hfront | hfront <;> rw [hfront]
  · exact hfits.splitWildcard
  · rwa [splitWildcard_append_left]

/-- What is left without a full stop at the end is acceptable if the whole name is. -/
theorem isAcceptable_splitDot (h : Idna.isAcceptable cs = true) :
    Idna.isAcceptable (splitDot cs).1 = true := by
  rw [← splitDot_append cs] at h
  rcases splitDot_snd cs with hdot | hdot <;> rw [hdot] at h
  · rwa [List.append_nil] at h
  · rwa [Idna.isAcceptable_concat] at h

/-- A name in ASCII stands for itself exactly if it leaves a domain. -/
theorem toAscii_self_iff (h : toAscii s = .ok ascii) :
    toAscii ascii = .ok ascii ↔ LeavesDomain ascii.toList := by
  have hchars := isHostChar_of_toAscii h
  have hstem : Idna.isAcceptable (stem ascii.toList) = true :=
    isAcceptable_splitDot (fitsDomain_of_toAscii h).isAcceptable
  rw [toAscii_eq_ok_iff, trimChars_of_isHostChar hchars]
  constructor
  · rintro ⟨domain, hdomain, -⟩
    have hself := Host.toList_eq_of_ofChars (Idna.isHostChar_of_isAcceptable hstem) hdomain
    rw [Host.ofChars_eq_domain_iff] at hdomain
    obtain ⟨-, -, hne, hnumber⟩ := hdomain
    rw [hself] at hne hnumber
    exact ⟨hne, hnumber⟩
  · rintro ⟨hne, hnumber⟩
    refine ⟨_, (Host.ofChars_of_isAcceptable hstem).mpr ⟨hne, hnumber⟩, ?_⟩
    rw [String.toList_ofList, stem, List.append_assoc, splitDot_append, splitWildcard_append]

/-- A name in ASCII leaves a domain if it does not end in a full stop. -/
theorem leavesDomain_of_getLast?_ne (h : toAscii s = .ok ascii)
    (hlast : ascii.toList.getLast? ≠ some '.') : LeavesDomain ascii.toList := by
  have hnumber := (fitsDomain_of_toAscii h).endsInNumber
  have happend := splitWildcard_append ascii.toList
  have hne : (splitWildcard ascii.toList).2 ≠ [] := by
    intro hnil
    rw [hnil, List.append_nil] at happend
    rcases splitWildcard_fst ascii.toList with hfront | hfront <;> rw [hfront] at happend
    · exact ne_nil_of_toAscii h happend.symm
    · rw [← happend] at hlast
      exact hlast rfl
  have hstem : stem ascii.toList = (splitWildcard ascii.toList).2 := by
    rw [stem, splitDot_of_getLast?_ne]
    rwa [← happend, List.getLast?_append_of_ne_nil _ hne] at hlast
  exact ⟨hstem ▸ hne, hstem ▸ hnumber⟩

/-- A name in ASCII stands for itself if it does not end in a full stop. -/
theorem toAscii_of_toAscii (h : toAscii s = .ok ascii) (hlast : ascii.toList.getLast? ≠ some '.') :
    toAscii ascii = .ok ascii :=
  (toAscii_self_iff h).mpr (leavesDomain_of_getLast?_ne h hlast)

/-- A wildcard label in front of a name in ASCII was there before, or the domain begins with it,
unless nothing is left behind it. -/
theorem wildcard_prefix_iff {domain : String}
    (hascii : ascii.toList = (splitWildcard (Text.trimChars s.toList)).1 ++ domain.toList ++
      (splitDot (splitWildcard (Text.trimChars s.toList)).2).2)
    (hne : stem ascii.toList ≠ []) : wildcard <+: ascii.toList ↔
      wildcard <+: Text.trimChars s.toList ∨ wildcard <+: domain.toList := by
  have hlabel : (splitWildcard (Text.trimChars s.toList)).1 = wildcard ↔
      wildcard <+: Text.trimChars s.toList := splitWildcard_fst_eq_iff
  rw [← hlabel]
  rcases splitWildcard_fst (Text.trimChars s.toList) with hfront | hfront <;>
    rw [hfront] at hascii ⊢
  · rw [List.nil_append] at hascii
    refine Iff.trans ?_ (or_iff_right (by decide)).symm
    constructor
    · intro hwild
      rw [hascii] at hwild
      rcases splitDot_snd (splitWildcard (Text.trimChars s.toList)).2 with hdot | hdot
      · rwa [hdot, List.append_nil] at hwild
      · rw [hdot, List.prefix_concat_iff] at hwild
        refine hwild.resolve_left fun hlabel => hne ?_
        rw [hascii, hdot, ← hlabel]
        rfl
    · intro hdomain
      rw [hascii]
      exact hdomain.trans (List.prefix_append _ _)
  · refine iff_of_true ?_ (.inl rfl)
    rw [hascii, List.append_assoc]
    exact List.prefix_append _ _

/-- What a text is brought into is final exactly if it leaves a domain without a wildcard label in
front and a full stop at its end. -/
theorem isFinal_iff_leavesDomain (h : toAscii s = .ok ascii) :
    IsFinal s ascii ↔ LeavesDomain ascii.toList := by
  rw [← toAscii_self_iff h]
  refine ⟨IsFinal.fixed, fun hfixed => ⟨hfixed, ?_, fun c hc => ?_⟩⟩
  · obtain ⟨domain, hdomain, hascii⟩ := toAscii_eq_ok_iff.mp h
    exact ⟨domain, hdomain, wildcard_prefix_iff hascii ((toAscii_self_iff h).mp hfixed).ne_nil⟩
  · exact Idna.isBlank_of_isHostChar (isHostChar_of_toAscii h c hc)

/-- A wildcard in capital letters, with blanks around it and a full stop at its end. -/
theorem isFinal_capitals : IsFinal " *.Example.ORG. " "*.example.org." :=
  (isFinal_iff_leavesDomain (by decide +kernel)).mpr ⟨by decide, by decide⟩

/-- Full stops that are found in ASCII only may leave nothing without them, or a number. -/
theorem not_isFinal_of_encoded_stops :
    (toAscii "%2E" = .ok "." ∧ toAscii "." = .error (.invalidArgument (.badDomain "." .emptyHost)) ∧
      ¬IsFinal "%2E" ".") ∧
    toAscii "1%2E%2E" = .ok "1.." ∧
      toAscii "1.." = .error (.invalidArgument (.addressAsDomain "1..")) ∧
      ¬IsFinal "1%2E%2E" "1.." := by
  have hempty : toAscii "." = .error (.invalidArgument (.badDomain "." .emptyHost)) := by
    decide +kernel
  have haddress : toAscii "1.." = .error (.invalidArgument (.addressAsDomain "1..")) := by
    decide +kernel
  exact ⟨⟨by decide +kernel, hempty, fun h => nomatch hempty.symm.trans h.fixed⟩,
    by decide +kernel, haddress, fun h => nomatch haddress.symm.trans h.fixed⟩

end AcmeClient.DomainName
