import AcmeClient.Challenge.Persistent
import AcmeClient.Proofs.Identifier.Spelling
import AcmeClient.Proofs.Results

/-!
# Names of persistent records

The name of a record is made of the text of an identifier and not of its normal value, and the
wildcard label is taken off before the text is brought into ASCII. So identifiers that are the same
share a name as long as both have the wildcard label written as such or neither has one.
-/

namespace AcmeClient

open DomainName (toAscii base withoutDots wildcard splitWildcard splitDot)

namespace DomainName

variable {cs rest : List Char} {s ascii : String}

/-- The base of a wildcard is what follows the label. -/
theorem base_wildcard (rest : List Char) : base (wildcard ++ rest) = rest := by
  rw [base, splitWildcard_append_left]

/-- A name without the wildcard label in front is its own base. -/
theorem base_of_unmarked (h : ¬wildcard <+: cs) : base cs = cs := by
  rw [base, splitWildcard_of_unmarked h]

/-- Full stops at the end are cut off behind the wildcard label, if anything remains there. -/
theorem withoutDots_wildcard (h : withoutDots rest ≠ []) :
    withoutDots (wildcard ++ rest) = wildcard ++ withoutDots rest := by
  obtain ⟨n, hn⟩ := exists_eq_withoutDots_append rest
  have hlast : (wildcard ++ withoutDots rest).getLast? ≠ some '.' := by
    rw [List.getLast?_append_of_ne_nil _ h]
    exact getLast?_withoutDots_ne rest
  conv_lhs => rw [hn, ← List.append_assoc, withoutDots_append_replicate]
  exact withoutDots_eq_self_iff.mpr hlast

/-- A wildcard is brought into ASCII by bringing its base into ASCII. -/
theorem toAscii_wildcard (hfirst : ∀ c ∈ rest.head?, Text.isBlank c = false)
    (hsingle : ¬wildcard <+: rest) : toAscii (.ofList (wildcard ++ rest)) = .ok ascii ↔
      ∃ base, toAscii (.ofList rest) = .ok base ∧ ascii.toList = wildcard ++ base.toList := by
  -- blanks are trimmed off the end only, on both sides
  obtain ⟨cut, hcut, _⟩ := Text.exists_dropEndWhile_append Text.isBlank rest
  have htrim : Text.trimChars rest = Text.dropEndWhile Text.isBlank rest :=
    Text.trimChars_of_head? hfirst
  have hwhole : Text.trimChars (wildcard ++ rest) = wildcard ++ Text.trimChars rest := by
    have hstar : ∀ c ∈ (wildcard ++ rest).head?, Text.isBlank c = false := by
      rintro c ⟨⟩
      decide
    have hstop : ∀ c ∈ wildcard.getLast?, Text.isBlank c = false := by
      rintro c ⟨⟩
      decide
    rw [Text.trimChars_of_head? hstar, htrim, Text.dropEndWhile_append_left hstop]
  have hbase : splitWildcard (Text.trimChars rest) = ([], Text.trimChars rest) := by
    refine splitWildcard_of_unmarked fun hstart => hsingle (hstart.trans ?_)
    rw [htrim]
    exact ⟨cut, hcut.symm⟩
  simp only [toAscii_eq_ok_iff, String.toList_ofList, hwhole, splitWildcard_append_left, hbase,
    stem, List.nil_append, List.append_assoc]
  constructor
  · rintro ⟨domain, hdomain, hascii⟩
    exact ⟨.ofList (domain.toList ++ (splitDot (Text.trimChars rest)).2),
      ⟨domain, hdomain, String.toList_ofList⟩, by rw [hascii, String.toList_ofList]⟩
  · rintro ⟨base, ⟨domain, hdomain, hbase⟩, hascii⟩
    exact ⟨domain, hdomain, by rw [hascii, hbase]⟩

end DomainName

namespace Identifier

/-- Whether an identifier stands for a domain, once full stops at its end are cut off. -/
def StandsFor (i : Identifier) (ascii : String) : Prop :=
  i.isDns = true ∧ toAscii (.ofList (withoutDots i.value.toList)) = .ok ascii

/-- Whether an identifier has the wildcard label written as such. -/
def SpellsWildcard (i : Identifier) : Prop := wildcard <+: i.value.toList

instance (i : Identifier) : Decidable i.SpellsWildcard := inferInstanceAs (Decidable (_ <+: _))

/-- Whether a wildcard label, if there is one, is followed by neither a blank nor another wildcard
label. -/
def IsSingle (i : Identifier) : Prop :=
  i.SpellsWildcard → (base i.value.toList).head?.any Text.isBlank = false ∧
    ¬wildcard <+: base i.value.toList

instance (i : Identifier) : Decidable i.IsSingle := inferInstanceAs (Decidable (_ → _))

/-- Whether a wildcard label, if there is one, is followed by something else than full stops. -/
def HasBase (i : Identifier) : Prop := i.SpellsWildcard → withoutDots (base i.value.toList) ≠ []

variable {i j : Identifier} {ascii : String}

/-- The domain that an identifier stands for is its normal value. -/
theorem StandsFor.normalValue_eq (h : i.StandsFor ascii) : i.normalValue = ascii := by
  obtain ⟨hdns, hok⟩ := h
  rw [normalValue_of_isDns hdns, normalizeName, hok]

/-- The domain behind the wildcard label that an identifier is written with, or the whole one. -/
def baseOf (i : Identifier) (ascii : String) : List Char :=
  if i.SpellsWildcard then ascii.toList.drop wildcard.length else ascii.toList

/-- An identifier that is written with one wildcard label stands for a wildcard, and the rest of
its text for the base. -/
theorem standsFor_iff_of_wildcard {rest : List Char} (hsingle : i.IsSingle) (hbase : i.HasBase)
    (hrest : i.value.toList = wildcard ++ rest) : i.StandsFor ascii ↔
      i.isDns = true ∧ ∃ base, toAscii (.ofList (withoutDots rest)) = .ok base ∧
        ascii.toList = wildcard ++ base.toList := by
  have hne := hbase ⟨rest, hrest.symm⟩
  obtain ⟨hfirst, hnot⟩ := hsingle ⟨rest, hrest.symm⟩
  rw [hrest, DomainName.base_wildcard] at hne hfirst hnot
  obtain ⟨n, hn⟩ := DomainName.exists_eq_withoutDots_append rest
  have hfirst' : ∀ c ∈ (withoutDots rest).head?, Text.isBlank c = false := by
    intro c hc
    rw [hn, List.head?_append, hc] at hfirst
    exact hfirst
  have hnot' : ¬wildcard <+: withoutDots rest := fun h => hnot (h.trans ⟨_, hn.symm⟩)
  rw [StandsFor, hrest, DomainName.withoutDots_wildcard hne,
    DomainName.toAscii_wildcard hfirst' hnot']

/-- An identifier that is written with the wildcard label and stands for a wildcard has a base. -/
theorem hasBase_of_standsFor (h : i.StandsFor ascii)
    (hwild : i.SpellsWildcard → wildcard <+: ascii.toList) : i.HasBase := by
  rintro ⟨rest, hrest⟩ hnil
  rw [← hrest, DomainName.base_wildcard] at hnil
  obtain ⟨n, hn⟩ := DomainName.exists_eq_withoutDots_append rest
  rw [hnil, List.nil_append] at hn
  -- the full stop of the label is cut off as well
  have hstar : withoutDots i.value.toList = ['*'] := by
    rw [← hrest, hn]
    exact (DomainName.withoutDots_append_replicate ['*'] (n + 1)).trans rfl
  obtain ⟨_, hok⟩ := h
  rw [hstar] at hok
  have hchars : ∀ c ∈ (String.ofList ['*']).toList, Idna.isHostChar c = true := by
    rw [String.toList_ofList]
    exact List.all_eq_true.mp (by decide)
  have hascii := DomainName.toAscii_eq_self hchars hok
  have hprefix := hwild ⟨rest, hrest⟩
  rw [hascii, String.toList_ofList] at hprefix
  exact absurd hprefix (by decide)

end Identifier

namespace PersistentProof

open Identifier

variable {i j : Identifier} {ascii ascii' name : String}

/-- Whether a name is in lowercase ASCII, without a wildcard label in front and without a full stop
at the end. -/
def IsBase (base : List Char) : Prop :=
  (∀ c ∈ base, Idna.isHostChar c = true) ∧ ¬wildcard <+: base ∧ base.getLast? ≠ some '.'

/-- Whether the name of a record is the label of records with a base and one full stop behind it. -/
def NamesBase (i : Identifier) : Prop :=
  ∃ base, recordName i = .ok (recordLabel ++ "." ++ .ofList base ++ ".") ∧ IsBase base

/-- Only domains have records. -/
theorem recordName_of_not_isDns (hdns : i.isDns = false) :
    recordName i = .error (.protocolViolation (.notDns i)) := by
  simp only [recordName, domain, hdns, Bool.false_eq_true, if_false]
  rfl

/-- The name of a record is made of what follows the wildcard label, without full stops at the
end. -/
theorem recordName_of_isDns (hdns : i.isDns = true) : recordName i =
    (toAscii (.ofList (withoutDots (base i.value.toList)))).map
      (recordLabel ++ "." ++ · ++ ".") := by
  have hdomain : i.domain = .ok i.value := if_pos hdns
  have hmap (r : Except Error String) :
      (do return recordLabel ++ "." ++ (← r) ++ ".") = r.map (recordLabel ++ "." ++ · ++ ".") := by
    cases r <;> rfl
  unfold recordName
  rw [hdomain, ok_bind]
  exact hmap _

/-- A record has a name exactly if the identifier stands for a domain, whose base is in the name
then. -/
theorem recordName_eq_ok_iff (hsingle : i.IsSingle) (hbase : i.HasBase) : recordName i = .ok name ↔
    ∃ ascii, i.StandsFor ascii ∧
      name = recordLabel ++ "." ++ .ofList (i.baseOf ascii) ++ "." := by
  cases hdns : i.isDns with
  | false => simp [recordName_of_not_isDns hdns, StandsFor, hdns]
  | true =>
    rw [recordName_of_isDns hdns]
    by_cases hwild : i.SpellsWildcard
    · obtain ⟨rest, hrest⟩ := hwild
      have hrest' : base i.value.toList = rest := by rw [← hrest, DomainName.base_wildcard]
      have hdrop {ascii base : String} (h : ascii.toList = wildcard ++ base.toList) :
          .ofList (i.baseOf ascii) = base := by
        rw [baseOf, if_pos ⟨rest, hrest⟩, h, List.drop_left, String.ofList_toList]
      rw [hrest', map_eq_ok_iff]
      simp only [standsFor_iff_of_wildcard hsingle hbase hrest.symm, hdns, true_and]
      constructor
      · rintro ⟨base, hok, rfl⟩
        have hascii := String.toList_ofList (l := wildcard ++ base.toList)
        exact ⟨_, ⟨base, hok, hascii⟩, by rw [hdrop hascii]⟩
      · rintro ⟨ascii, ⟨base, hok, hascii⟩, rfl⟩
        exact ⟨base, hok, by rw [hdrop hascii]⟩
    · rw [DomainName.base_of_unmarked hwild, map_eq_ok_iff]
      simp only [StandsFor, hdns, true_and, baseOf, if_neg hwild, String.ofList_toList,
        eq_comm (a := name)]

/-- The records of a domain and of its wildcard have the same name. -/
theorem recordName_wildcard (hdns : i.isDns = true) (hnot : ¬i.SpellsWildcard) :
    recordName { i with value := .ofList (wildcard ++ i.value.toList) } = recordName i := by
  have hdns' : isDns { i with value := .ofList (wildcard ++ i.value.toList) } = true := hdns
  rw [recordName_of_isDns hdns, recordName_of_isDns hdns', String.toList_ofList,
    DomainName.base_wildcard, DomainName.base_of_unmarked hnot]

/-- The name of a record tells the base. -/
theorem recordName_inj {base base' : List Char}
    (h : recordLabel ++ "." ++ .ofList base ++ "." = recordLabel ++ "." ++ .ofList base' ++ ".") :
    base = base' := by
  have hlist := congrArg String.toList h
  simpa using hlist

/-- An identifier that is written with the wildcard label stands for a wildcard. -/
theorem eq_wildcard_append_of_spellsWildcard (hsingle : i.IsSingle) (hbase : i.HasBase)
    (h : i.StandsFor ascii) (hwild : i.SpellsWildcard) :
    ∃ base, base ≠ [] ∧ ascii.toList = wildcard ++ base := by
  obtain ⟨rest, hrest⟩ := hwild
  obtain ⟨_, base, hok, hascii⟩ := (standsFor_iff_of_wildcard hsingle hbase hrest.symm).mp h
  exact ⟨base.toList, DomainName.ne_nil_of_toAscii hok, hascii⟩

/-- The name of a record ends in a base, unless the wildcard label is not written as such or a full
stop remains at the end of the domain. -/
theorem isBase_baseOf_iff (hsingle : i.IsSingle) (hbase : i.HasBase) (h : i.StandsFor ascii)
    (hone : ¬wildcard ++ wildcard <+: ascii.toList) : IsBase (i.baseOf ascii) ↔
      (wildcard <+: ascii.toList → i.SpellsWildcard) ∧ ascii.toList.getLast? ≠ some '.' := by
  have hchars := DomainName.isHostChar_of_toAscii h.2
  by_cases hwild : i.SpellsWildcard
  · obtain ⟨base, hne, hascii⟩ := eq_wildcard_append_of_spellsWildcard hsingle hbase h hwild
    have hbaseOf : i.baseOf ascii = base := by
      rw [baseOf, if_pos hwild, hascii, List.drop_left]
    have hnot : ¬wildcard <+: base := by
      rw [hascii, List.prefix_append_right_inj] at hone
      exact hone
    rw [hascii] at hchars
    have hbasechars : ∀ c ∈ base, Idna.isHostChar c = true :=
      fun c hc => hchars c (List.mem_append_right _ hc)
    rw [hbaseOf, hascii, List.getLast?_append_of_ne_nil _ hne]
    exact ⟨fun h => ⟨fun _ => hwild, h.2.2⟩, fun h => ⟨hbasechars, hnot, h.2⟩⟩
  · rw [baseOf, if_neg hwild]
    exact ⟨fun h => ⟨fun hstart => absurd hstart h.2.1, h.2.2⟩,
      fun h => ⟨hchars, fun hstart => hwild (h.1 hstart), h.2⟩⟩

/-- A record of an identifier that stands for a domain has a name. -/
theorem recordName_of_standsFor (hsingle : i.IsSingle) (hbase : i.HasBase) (h : i.StandsFor ascii) :
    recordName i = .ok (recordLabel ++ "." ++ .ofList (i.baseOf ascii) ++ ".") :=
  (recordName_eq_ok_iff hsingle hbase).mpr ⟨ascii, h, rfl⟩

/-- Identifiers that stand for the same domain have the same name of records exactly if both are
written with the wildcard label or neither is. -/
theorem recordName_eq_iff (hi : i.IsSingle) (hj : j.IsSingle) (hbi : i.HasBase) (hbj : j.HasBase)
    (h : i.StandsFor ascii) (h' : j.StandsFor ascii) :
    recordName i = recordName j ↔ (i.SpellsWildcard ↔ j.SpellsWildcard) := by
  have hne (k : Identifier) (hk : k.IsSingle) (hbk : k.HasBase) (h : k.StandsFor ascii)
      (hwild : k.SpellsWildcard) : ascii.toList.drop wildcard.length ≠ ascii.toList := by
    obtain ⟨base, _, hascii⟩ := eq_wildcard_append_of_spellsWildcard hk hbk h hwild
    rw [hascii, List.drop_left]
    intro heq
    simpa [wildcard, Nat.add_assoc] using congrArg List.length heq
  rw [recordName_of_standsFor hi hbi h, recordName_of_standsFor hj hbj h', Except.ok.injEq]
  have hnames : recordLabel ++ "." ++ .ofList (i.baseOf ascii) ++ "." =
      recordLabel ++ "." ++ .ofList (j.baseOf ascii) ++ "." ↔ i.baseOf ascii = j.baseOf ascii :=
    ⟨recordName_inj, fun heq => by rw [heq]⟩
  rw [hnames, baseOf, baseOf]
  by_cases hwild : i.SpellsWildcard <;> by_cases hwild' : j.SpellsWildcard
  · simp [hwild, hwild']
  · simp [hwild, hwild', hne i hi hbi h hwild]
  · simp [hwild, hwild', (hne j hj hbj h' hwild').symm]
  · simp [hwild, hwild']

/-- The name of a record ends in a base exactly if the identifier is written with the wildcard label
when it stands for a wildcard, and the domain does not end in a full stop. -/
theorem namesBase_iff (hsingle : i.IsSingle) (hbase : i.HasBase) (h : i.StandsFor ascii)
    (hone : ¬wildcard ++ wildcard <+: ascii.toList) : NamesBase i ↔
      (wildcard <+: ascii.toList → i.SpellsWildcard) ∧ ascii.toList.getLast? ≠ some '.' := by
  rw [← isBase_baseOf_iff hsingle hbase h hone, NamesBase,
    recordName_of_standsFor hsingle hbase h]
  constructor
  · rintro ⟨base, hname, hbase⟩
    rwa [recordName_inj (Except.ok.inj hname)]
  · intro hbaseOf
    exact ⟨_, rfl, hbaseOf⟩

/-- Identifiers of another type that are the same are refused with the same message. -/
theorem recordName_of_same_other (hsame : i.same j = true) (hdns : i.isDns = false) :
    recordName i = .error (.protocolViolation (.notDns i)) ∧
      recordName j = .error (.protocolViolation (.notDns j)) ∧
      (ProtocolFault.notDns i).message = (ProtocolFault.notDns j).message := by
  simp only [Identifier.same, Bool.and_eq_true, beq_iff_eq] at hsame
  obtain ⟨htype, hvalue⟩ := hsame
  have hdns' : j.isDns = false := by
    rw [isDns, ← htype]
    exact hdns
  have hverbatim (k : Identifier) (hk : k.isDns = false) : k.normalValue = k.value :=
    if_neg (Bool.eq_false_iff.mp hk)
  rw [hverbatim i hdns, hverbatim j hdns'] at hvalue
  refine ⟨recordName_of_not_isDns hdns, recordName_of_not_isDns hdns', ?_⟩
  unfold ProtocolFault.message
  dsimp only
  rw [htype, hvalue]

/-- The name of a record is the label of records with a name in lowercase ASCII behind it. -/
theorem isHostChar_of_recordName (h : recordName i = .ok name) : ∃ base,
    name = recordLabel ++ "." ++ .ofList base ++ "." ∧ ∀ c ∈ base, Idna.isHostChar c = true := by
  cases hdns : i.isDns with
  | false => exact nomatch (recordName_of_not_isDns hdns).symm.trans h
  | true =>
    rw [recordName_of_isDns hdns, map_eq_ok_iff] at h
    obtain ⟨base, hok, rfl⟩ := h
    exact ⟨base.toList, by rw [String.ofList_toList], DomainName.isHostChar_of_toAscii hok⟩

/-- A record with a name has something behind the wildcard label, if there is one. -/
theorem hasBase_of_recordName (h : recordName i = .ok name) : i.HasBase := by
  intro _ hnil
  cases hdns : i.isDns with
  | false => exact nomatch (recordName_of_not_isDns hdns).symm.trans h
  | true =>
    rw [recordName_of_isDns hdns, hnil] at h
    exact nomatch h

/-- Identifiers that are the same have the same name of records, made of a base, exactly if both are
written with the wildcard label when they stand for a wildcard, and the domain does not end in a
full stop. A domain shares the name with its wildcard, and names are in lowercase ASCII. Identifiers
of other types have no records, and the same message says so. -/
theorem recordName_of_same (hsame : i.same j = true) :
    (i.isDns = false → recordName i = .error (.protocolViolation (.notDns i)) ∧
      recordName j = .error (.protocolViolation (.notDns j)) ∧
      (ProtocolFault.notDns i).message = (ProtocolFault.notDns j).message) ∧
    (i.isDns = true → ¬i.SpellsWildcard →
      recordName { i with value := .ofList (wildcard ++ i.value.toList) } = recordName i) ∧
    (∀ name, recordName i = .ok name → ∃ base,
      name = recordLabel ++ "." ++ .ofList base ++ "." ∧ ∀ c ∈ base, Idna.isHostChar c = true) ∧
    (i.IsSingle → j.IsSingle → ∀ ascii ascii', i.StandsFor ascii → j.StandsFor ascii' →
      ¬wildcard ++ wildcard <+: ascii.toList →
      (recordName i = recordName j ∧ NamesBase i ↔
        (i.SpellsWildcard ↔ wildcard <+: ascii.toList) ∧
        (j.SpellsWildcard ↔ wildcard <+: ascii.toList) ∧ ascii.toList.getLast? ≠ some '.')) := by
  refine ⟨recordName_of_same_other hsame, recordName_wildcard,
    fun name h => isHostChar_of_recordName h, fun hi hj ascii ascii' h h' hone => ?_⟩
  obtain rfl : ascii = ascii' := by
    rw [← h.normalValue_eq, ← h'.normalValue_eq]
    exact congrArg Prod.snd ((same_iff i j).mp hsame)
  constructor
  · rintro ⟨heq, hnames⟩
    obtain ⟨base, hname, _⟩ := id hnames
    have hbi := hasBase_of_recordName hname
    have hbj := hasBase_of_recordName (heq.symm.trans hname)
    have hwild (hspells : i.SpellsWildcard) : wildcard <+: ascii.toList := by
      obtain ⟨base, _, hascii⟩ := eq_wildcard_append_of_spellsWildcard hi hbi h hspells
      exact ⟨base, hascii.symm⟩
    obtain ⟨hspelled, hlast⟩ := (namesBase_iff hi hbi h hone).mp hnames
    have hiff : i.SpellsWildcard ↔ wildcard <+: ascii.toList := ⟨hwild, hspelled⟩
    exact ⟨hiff, ((recordName_eq_iff hi hj hbi hbj h h').mp heq).symm.trans hiff, hlast⟩
  · rintro ⟨hiff, hiff', hlast⟩
    have hbi := hasBase_of_standsFor h hiff.mp
    have hbj := hasBase_of_standsFor h' hiff'.mp
    exact ⟨(recordName_eq_iff hi hj hbi hbj h h').mpr (hiff.trans hiff'.symm),
      (namesBase_iff hi hbi h hone).mpr ⟨hiff.mpr, hlast⟩⟩

/-- Capital letters and a full stop at the end do not change the name of a record. -/
theorem recordName_of_same_capitals :
    (verbatim "*.Example.org.").same (verbatim "*.example.org") = true ∧
      recordName (verbatim "*.Example.org.") = recordName (verbatim "*.example.org") ∧
      NamesBase (verbatim "*.Example.org.") := by
  have hsame : (verbatim "*.Example.org.").same (verbatim "*.example.org") = true := by
    decide +kernel
  have hdomain : (verbatim "*.Example.org.").StandsFor "*.example.org" :=
    ⟨rfl, by decide +kernel⟩
  have hdomain' : (verbatim "*.example.org").StandsFor "*.example.org" := ⟨rfl, by decide +kernel⟩
  have hnames := (recordName_of_same hsame).2.2.2 (by decide +kernel) (by decide +kernel) _ _
    hdomain hdomain' (by decide)
  exact ⟨hsame, hnames.mpr ⟨by decide, by decide, by decide⟩⟩

/-- A blank in front of the wildcard label keeps it from being taken off, so that identifiers that
are the same have records with different names. -/
theorem recordName_ne_of_blank :
    (verbatim " *.example.org").same (verbatim "*.example.org") = true ∧
      recordName (verbatim " *.example.org") = .ok "_validation-persist.*.example.org." ∧
      recordName (verbatim "*.example.org") = .ok "_validation-persist.example.org." := by
  decide +kernel

end PersistentProof

end AcmeClient
