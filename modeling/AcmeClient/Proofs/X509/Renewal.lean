import AcmeClient.CertificateBundle
import AcmeClient.Proofs.Pem.Documents
import AcmeClient.Proofs.X509.Outline

/-!
# Certificates that are renewed

An order names the certificate that it replaces by the identifier of its authority's key and its
serial number. Both are contents of elements of the certificate, and both can be told from the name,
as no full stop is a symbol of base 64.
-/

namespace AcmeClient

open X509

namespace CertificateBundle

variable {b b' : CertificateBundle} {first : Bytes} {rest : List Bytes} {id id' : String}

/-- What names a certificate: the identifier of the key in the first extension for the key of an
authority, and the content of the serial number. -/
def nameParts? (der : Bytes) : Option (Bytes × Bytes) := do
  let value ← firstValue? Oid.authorityKeyIdentifier der
  return (← keyIdentifierContent? value, ← serialContent? der)

/-- Whether the first certificate of a chain can be read, and in it the identifier of the key of an
authority in the first extension for it. -/
structure IsNamed (b : CertificateBundle) (first : Bytes) (rest : List Bytes) (value : Bytes) :
    Prop where
  chain : b.chain = .ok (first :: rest)
  certificate : (Certificate.decode? first).isSome
  extension : firstValue? Oid.authorityKeyIdentifier first = some value
  authorityKey : (AuthorityKey.decode? value).isSome
  keyIdentifier : (keyIdentifierContent? value).isSome

/-- Whether a text consists of the texts of a key identifier and of a serial number in base 64, with
the only full stop between them. -/
def IsNameOf (parts : Bytes × Bytes) (id : String) : Prop :=
  id.toList.count '.' = 1 ∧ ∃ front back, id = front ++ "." ++ back ∧
    Base64.decodeUrl? front = some parts.1 ∧ Base64.decodeUrl? back = some parts.2

/-- The first certificate of a chain is the end entity. -/
theorem endEntity_eq_ok_iff {c : Certificate} : b.endEntity = .ok c ↔
    ∃ first rest, b.chain = .ok (first :: rest) ∧ Certificate.decode? first = some c := by
  unfold endEntity
  cases hchain : b.chain with
  | error e => exact ⟨nofun, by simp⟩
  | ok l =>
    rw [ok_bind]
    cases l with
    | nil => exact ⟨nofun, by simp⟩
    | cons first rest =>
      cases hdecode : Certificate.decode? first with
      | none => simp [hdecode, throw, throwThe, MonadExceptOf.throw]
      | some c' => simp [hdecode, pure, Except.pure]

/-- A certificate is named after the first extension for the key of an authority. -/
theorem renewalId_eq_ok_iff : b.renewalId = .ok id ↔ ∃ c extension k, b.endEntity = .ok c ∧
    c.extensions.find? (·.oid = Oid.authorityKeyIdentifier) = some extension ∧
    AuthorityKey.decode? extension.value = some ⟨some k⟩ ∧
    id = Base64.encodeUrl k ++ "." ++ Base64.encodeUrl c.serial := by
  unfold renewalId
  cases hentity : b.endEntity with
  | error e => exact ⟨nofun, nofun⟩
  | ok c =>
    rw [ok_bind]
    cases hfind : c.extensions.find? (·.oid = Oid.authorityKeyIdentifier) with
    | none => exact ⟨nofun, by simp [hfind]⟩
    | some extension =>
      simp only
      cases hdecode : AuthorityKey.decode? extension.value with
      | none => exact ⟨nofun, by simp [hfind, hdecode]⟩
      | some key =>
        obtain ⟨k⟩ := key
        cases k with
        | none => exact ⟨nofun, by simp [hfind, hdecode]⟩
        | some k =>
          simp only [Except.ok.injEq, Option.some.injEq, exists_and_left, exists_eq_left', hfind,
            hdecode, AuthorityKey.mk.injEq]
          exact ⟨fun h => (Except.ok.inj h).symm, fun h => h ▸ rfl⟩

/-- A name is made of the contents of elements of the first certificate. -/
theorem renewalId_eq_ok_iff_isNamed : b.renewalId = .ok id ↔ ∃ first rest value k serial,
    b.IsNamed first rest value ∧ keyIdentifierContent? value = some k ∧
    serialContent? first = some serial ∧
    id = Base64.encodeUrl k ++ "." ++ Base64.encodeUrl serial := by
  simp only [renewalId_eq_ok_iff, endEntity_eq_ok_iff]
  constructor
  · rintro ⟨c, extension, k, ⟨first, rest, hchain, hcertificate⟩, hfind, hkey, rfl⟩
    have hk : keyIdentifierContent? extension.value = some k :=
      keyIdentifierContent?_of_decode? hkey
    refine ⟨first, rest, extension.value, k, c.serial, ⟨hchain, ?_, ?_, ?_, ?_⟩, hk,
      serialContent?_of_decode? hcertificate, rfl⟩
    · rw [hcertificate, Option.isSome_some]
    · rw [firstValue?_of_decode? hcertificate, hfind, Option.map_some]
    · rw [hkey, Option.isSome_some]
    · rw [hk, Option.isSome_some]
  · rintro ⟨first, rest, value, k, serial, h, hk, hserial, rfl⟩
    obtain ⟨c, hcertificate⟩ := Option.isSome_iff_exists.mp h.certificate
    obtain ⟨⟨k'⟩, hkey⟩ := Option.isSome_iff_exists.mp h.authorityKey
    obtain rfl : some k = k' := hk.symm.trans (keyIdentifierContent?_of_decode? hkey)
    obtain rfl : c.serial = serial :=
      Option.some.inj ((serialContent?_of_decode? hcertificate).symm.trans hserial)
    have hvalue := h.extension
    rw [firstValue?_of_decode? hcertificate, Option.map_eq_some_iff] at hvalue
    obtain ⟨extension, hfind, rfl⟩ := hvalue
    exact ⟨c, extension, k, ⟨first, rest, h.chain, hcertificate⟩, hfind, hkey, rfl⟩

/-- A certificate has a name if what it is made of can be read: the serial number is read with the
certificate. -/
theorem exists_renewalId_iff :
    (∃ id, b.renewalId = .ok id) ↔ ∃ first rest value, b.IsNamed first rest value := by
  simp only [renewalId_eq_ok_iff_isNamed]
  constructor
  · rintro ⟨_, first, rest, value, _, _, h, _⟩
    exact ⟨first, rest, value, h⟩
  · rintro ⟨first, rest, value, h⟩
    obtain ⟨k, hk⟩ := Option.isSome_iff_exists.mp h.keyIdentifier
    obtain ⟨c, hcertificate⟩ := Option.isSome_iff_exists.mp h.certificate
    exact ⟨_, first, rest, value, k, c.serial, h, hk, serialContent?_of_decode? hcertificate, rfl⟩

/-- The parts of a name are those of the first certificate of the chain. -/
theorem exists_nameParts?_of_renewalId (hchain : b.chain = .ok (first :: rest))
    (h : b.renewalId = .ok id) : ∃ k serial, nameParts? first = some (k, serial) ∧
      id = Base64.encodeUrl k ++ "." ++ Base64.encodeUrl serial := by
  obtain ⟨first', rest', value, k, serial, hnamed, hk, hserial, rfl⟩ :=
    renewalId_eq_ok_iff_isNamed.mp h
  obtain ⟨rfl, -⟩ := List.cons.inj (Except.ok.inj (hchain.symm.trans hnamed.chain))
  refine ⟨k, serial, ?_, rfl⟩
  rw [nameParts?, hnamed.extension]
  change (keyIdentifierContent? value).bind _ = _
  rw [hk, hserial]
  rfl

/-- The texts of octets on either side of a full stop are a name of the octets. -/
theorem isNameOf (k serial : Bytes) :
    IsNameOf (k, serial) (Base64.encodeUrl k ++ "." ++ Base64.encodeUrl serial) := by
  have hnone (octets : Bytes) : (Base64.encodeUrl octets).toList.count '.' = 0 :=
    List.count_eq_zero_of_not_mem
      (Base64.not_mem_of_isUrlSymbol Base64.isUrlSymbol_of_mem_encodeUrl)
  refine ⟨?_, _, _, rfl, Base64.decodeUrl?_encodeUrl k, Base64.decodeUrl?_encodeUrl serial⟩
  rw [String.toList_append, String.toList_append, List.count_append, List.count_append, hnone,
    hnone]
  rfl

/-- Octets can be told from their texts on either side of a full stop. -/
theorem dotted_eq_iff {k k' serial serial' : Bytes} :
    Base64.encodeUrl k ++ "." ++ Base64.encodeUrl serial =
      Base64.encodeUrl k' ++ "." ++ Base64.encodeUrl serial' ↔ (k, serial) = (k', serial') := by
  have hstop (octets : Bytes) : '.' ∉ (Base64.encodeUrl octets).toList :=
    Base64.not_mem_of_isUrlSymbol Base64.isUrlSymbol_of_mem_encodeUrl
  constructor
  · intro h
    have hlists := congrArg String.toList h
    simp only [String.toList_append, List.append_assoc] at hlists
    obtain ⟨hk, -, hserial⟩ :=
      (List.append_cons_inj_of_notMem (hstop k) (hstop serial)).mp hlists
    rw [Base64.encodeUrl_injective (String.toList_injective hk),
      Base64.encodeUrl_injective (String.toList_injective hserial)]
  · intro h
    obtain ⟨rfl, rfl⟩ := Prod.mk.inj h
    rfl

/-- A certificate has a name exactly if there is a first certificate in the chain that can be read,
and in it the identifier of the key of an authority in the first extension for it. The name consists
of the texts of the identifier and of the serial number with the only full stop between them. So two
certificates have the same name exactly if they agree on both. -/
theorem renewalId_names_certificate (b b' : CertificateBundle) :
    ((∃ id, b.renewalId = .ok id) ↔ ∃ first rest value, b.IsNamed first rest value) ∧
    (∀ first rest id, b.chain = .ok (first :: rest) → b.renewalId = .ok id →
      ∃ parts, nameParts? first = some parts ∧ IsNameOf parts id) ∧
    ∀ first rest first' rest' id id', b.chain = .ok (first :: rest) →
      b'.chain = .ok (first' :: rest') → b.renewalId = .ok id → b'.renewalId = .ok id' →
        (id = id' ↔ nameParts? first = nameParts? first') := by
  refine ⟨exists_renewalId_iff, ?_, ?_⟩
  · intro first rest id hchain hid
    obtain ⟨k, serial, hparts, rfl⟩ := exists_nameParts?_of_renewalId hchain hid
    exact ⟨_, hparts, isNameOf k serial⟩
  · intro first rest first' rest' id id' hchain hchain' hid hid'
    obtain ⟨k, serial, hparts, rfl⟩ := exists_nameParts?_of_renewalId hchain hid
    obtain ⟨k', serial', hparts', rfl⟩ := exists_nameParts?_of_renewalId hchain' hid'
    rw [hparts, hparts', dotted_eq_iff, Option.some.injEq]

/-- A certificate whose serial number begins with an octet of zero, and whose extension for the key
of an authority is not the first extension. -/
def named : Bytes :=
  skeleton [0x00, 0x81] [⟨Oid.subjectAltName, true, []⟩,
    ⟨Oid.authorityKeyIdentifier, false, Der.write 0x30 (Der.write 0x80 [0xAB, 0xCD])⟩]

/-- The text of a certificate is a chain of its own. -/
theorem chain_encode (privateKey : String) {der : Bytes} (h : der ≠ []) :
    chain ⟨privateKey, Pem.encode "CERTIFICATE" der⟩ = .ok [der] := by
  rw [chain, Pem.certificates?_encode h]

/-- A certificate is named by the identifier of the key, and by its serial number with the octet of
zero. -/
theorem renewalId_names_certificate_zero :
    ∃ id, renewalId ⟨"", Pem.encode "CERTIFICATE" named⟩ = .ok id ∧
      IsNameOf ([0xAB, 0xCD], [0x00, 0x81]) id := by
  have hchain := chain_encode "" (show named ≠ [] by decide)
  have hvalue : firstValue? Oid.authorityKeyIdentifier named =
      some (Der.write 0x30 (Der.write 0x80 [0xAB, 0xCD])) := by decide +kernel
  have hparts : nameParts? named = some ([0xAB, 0xCD], [0x00, 0x81]) := by decide +kernel
  obtain ⟨hexists, hname, -⟩ := renewalId_names_certificate ⟨"", Pem.encode "CERTIFICATE" named⟩
    ⟨"", Pem.encode "CERTIFICATE" named⟩
  obtain ⟨id, hid⟩ := hexists.mpr
    ⟨_, _, _, hchain, by decide +kernel, hvalue, by decide, by decide⟩
  obtain ⟨parts, hfound, hid'⟩ := hname _ _ _ hchain hid
  obtain rfl := Option.some.inj (hparts.symm.trans hfound)
  exact ⟨id, hid, hid'⟩

end CertificateBundle

end AcmeClient
