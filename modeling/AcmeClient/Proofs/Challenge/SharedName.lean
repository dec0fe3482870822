import AcmeClient.Challenge.Token
import AcmeClient.Proofs.Challenge.RecordName

/-!
# One domain with records of both sorts

The record with a digest and the persistent record of an identifier have names that begin with
labels of their own. What comes after the label is the domain as it is written for the one and the
domain in ASCII for the other, so it is the same only for a domain that is in lowercase ASCII.
-/

namespace AcmeClient

open DomainName (toAscii base withoutDots)

namespace Identifier

/-- What the value of an identifier has between the wildcard label and the full stops at its end. -/
def writtenBase (i : Identifier) : List Char := withoutDots (base i.value.toList)

variable {i : Identifier} {s name name' : String}

/-- Whether names of records differ in their first label only, the labels being those of the two
sorts of records, and go on in lowercase ASCII up to a full stop at the end. -/
def NamesOneDomain (name name' : String) : Prop :=
  ∃ owner : List Char, (∀ c ∈ owner, Idna.isHostChar c = true) ∧ owner.getLast? = some '.' ∧
    name = TokenProof.recordLabel ++ "." ++ .ofList owner ∧
    name' = PersistentProof.recordLabel ++ "." ++ .ofList owner

/-- Only domains have records with a digest, and the domain is in their name as it is written. -/
theorem tokenRecordName_eq_ok_iff : TokenProof.recordName i = .ok name ↔
    i.isDns = true ∧ name = TokenProof.recordLabel ++ "." ++ .ofList i.writtenBase ++ "." := by
  unfold TokenProof.recordName domain
  cases i.isDns with
  | true => simp [eq_comm, writtenBase]
  | false => simp

/-- Only domains have persistent records, and the domain is in their name in ASCII. -/
theorem persistentRecordName_eq_ok_iff : PersistentProof.recordName i = .ok name ↔
    i.isDns = true ∧ ∃ ascii, toAscii (.ofList i.writtenBase) = .ok ascii ∧
      name = PersistentProof.recordLabel ++ "." ++ ascii ++ "." := by
  cases hdns : i.isDns with
  | true =>
    rw [PersistentProof.recordName_of_isDns hdns, map_eq_ok_iff]
    simp [writtenBase, eq_comm (a := name)]
  | false => simp [PersistentProof.recordName_of_not_isDns hdns]

/-- The characters of a wildcard's base are those of the wildcard. -/
theorem mem_of_mem_writtenBase {c : Char} (h : c ∈ i.writtenBase) : c ∈ i.value.toList := by
  obtain ⟨n, hn⟩ := DomainName.exists_eq_withoutDots_append (base i.value.toList)
  have hbase : c ∈ base i.value.toList := hn ▸ List.mem_append_left _ h
  rw [← DomainName.splitWildcard_append i.value.toList]
  exact List.mem_append_right _ hbase

/-- A made identifier is written in lowercase ASCII. -/
theorem isHostChar_writtenBase_of_dns (h : dns s = .ok i) :
    ∀ c ∈ i.writtenBase, Idna.isHostChar c = true := by
  obtain ⟨ascii, hascii, rfl⟩ := exists_of_dns h
  intro c hc
  exact DomainName.isHostChar_of_toAscii hascii c (mem_of_mem_writtenBase hc)

/-- The domain in both names is the same exactly if it is written in lowercase ASCII. -/
theorem namesOneDomain_iff (h : TokenProof.recordName i = .ok name)
    (h' : PersistentProof.recordName i = .ok name') :
    NamesOneDomain name name' ↔ ∀ c ∈ i.writtenBase, Idna.isHostChar c = true := by
  obtain ⟨_, rfl⟩ := tokenRecordName_eq_ok_iff.mp h
  obtain ⟨_, ascii, hascii, rfl⟩ := persistentRecordName_eq_ok_iff.mp h'
  constructor
  · rintro ⟨owner, hchars, _, howner, _⟩
    have hlist : i.writtenBase ++ ['.'] = owner := by
      simpa [String.append_assoc] using congrArg String.toList howner
    exact fun c hc => hchars c (hlist ▸ List.mem_append_left _ hc)
  · intro hchars
    have hsame : ascii = .ofList i.writtenBase :=
      DomainName.toAscii_eq_self (by rwa [String.toList_ofList]) hascii
    have hdot : Idna.isHostChar '.' = true := by decide
    refine ⟨i.writtenBase ++ ['.'], ?_, by simp, ?_, ?_⟩
    · simpa [or_imp, forall_and, hdot] using hchars
    · simp [String.ofList_append, String.append_assoc]
    · simp [hsame, String.ofList_append, String.append_assoc]

/-- An identifier with records of both sorts has a domain: one name ends in it as it is written, and
the other in its form in lowercase ASCII. The names differ in their first label only exactly if the
domain is written in that form, as it is in an identifier that was made from a domain. -/
theorem recordNames_agree_iff (h : TokenProof.recordName i = .ok name)
    (h' : PersistentProof.recordName i = .ok name') :
    (∃ ascii, toAscii (.ofList i.writtenBase) = .ok ascii ∧
      (∀ c ∈ ascii.toList, Idna.isHostChar c = true) ∧
      name = "_acme-challenge." ++ .ofList i.writtenBase ++ "." ∧
      name' = "_validation-persist." ++ ascii ++ ".") ∧
    (NamesOneDomain name name' ↔ ∀ c ∈ i.writtenBase, Idna.isHostChar c = true) ∧
    (∀ s, dns s = .ok i → NamesOneDomain name name') := by
  have hiff := namesOneDomain_iff h h'
  obtain ⟨_, hname⟩ := tokenRecordName_eq_ok_iff.mp h
  obtain ⟨_, ascii, hascii, hname'⟩ := persistentRecordName_eq_ok_iff.mp h'
  refine ⟨⟨ascii, hascii, DomainName.isHostChar_of_toAscii hascii, hname, hname'⟩, hiff, ?_⟩
  intro s hmade
  exact hiff.mpr (isHostChar_writtenBase_of_dns hmade)

/-- A wildcard with full stops at the end has both records with the domain below it. -/
theorem recordNames_agree_wildcard :
    TokenProof.recordName (verbatim "*.example.org..") = .ok "_acme-challenge.example.org." ∧
      PersistentProof.recordName (verbatim "*.example.org..") =
        .ok "_validation-persist.example.org." ∧
      NamesOneDomain "_acme-challenge.example.org." "_validation-persist.example.org." := by
  have h : TokenProof.recordName (verbatim "*.example.org..") =
      .ok "_acme-challenge.example.org." := by decide +kernel
  have h' : PersistentProof.recordName (verbatim "*.example.org..") =
      .ok "_validation-persist.example.org." := by decide +kernel
  obtain ⟨_, hiff, _⟩ := recordNames_agree_iff h h'
  exact ⟨h, h', hiff.mpr (List.all_eq_true.mp (by decide +kernel))⟩

/-- A domain that a server writes with capital letters has records with different domains. -/
theorem not_namesOneDomain_capitals :
    TokenProof.recordName (verbatim "Example.ORG") = .ok "_acme-challenge.Example.ORG." ∧
      PersistentProof.recordName (verbatim "Example.ORG") =
        .ok "_validation-persist.example.org." ∧
      ¬NamesOneDomain "_acme-challenge.Example.ORG." "_validation-persist.example.org." := by
  refine ⟨by decide +kernel, by decide +kernel, ?_⟩
  rintro ⟨owner, hchars, _, howner, _⟩
  have hlist : "Example.ORG.".toList = owner := by
    simpa [TokenProof.recordLabel] using congrArg String.toList howner
  exact absurd (hchars 'E' (hlist ▸ by decide)) (by decide)

end Identifier

end AcmeClient
