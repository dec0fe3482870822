import AcmeClient.Order.Basic
import AcmeClient.Proofs.Encoding.Base64
import AcmeClient.Proofs.Net.AddressText
import AcmeClient.Proofs.Resource.RoundTrip
import AcmeClient.Proofs.Results
import AcmeClient.Proofs.Text.Octets
import AcmeClient.Proofs.X509.Naming

/-!
# Requests ask for their identifiers

A request is made of identifiers that it can name, and has a name for each of them, in their order.
Reading its octets gives the public key of the signer and these names again, and nothing else is
asked for.
-/

namespace AcmeClient

namespace Identifier

/-- Whether a request can name an identifier: a domain in ASCII, or an address. -/
def IsRequestable (i : Identifier) : Prop :=
  (i.isDns = true ∧ ∀ c ∈ i.value.toList, c.toNat < 0x80) ∨
    (i.isIp = true ∧ ∃ a, IpAddress.ofText? i.value = some a)

/-- Whether a name in a request is that of an identifier: the octets of its text, or those of its
address. -/
def IsNamed (i : Identifier) : X509.GeneralName → Prop
  | .dns octets => i.isDns = true ∧ octets = Utf8.encode i.value
  | .ip octets => i.isIp = true ∧ ∃ a, IpAddress.ofText? i.value = some a ∧ octets = a.octets ∧
    (octets.length = 4 ∨ octets.length = 16)
  | .other _ => False

variable {i : Identifier} {a : IpAddress} {g : X509.GeneralName}

/-- An identifier has one type. -/
theorem isDns_of_isIp (h : i.isIp = true) : i.isDns = false := by
  have htype : i.type = ipType := beq_iff_eq.mp h
  rw [isDns, htype]
  decide

/-- An identifier names an address if it has the type for it and the text of the address. -/
theorem address_eq_ok_iff :
    i.address = .ok a ↔ i.isIp = true ∧ IpAddress.ofText? i.value = some a := by
  unfold address
  cases i.isIp with
  | false => simp
  | true =>
    cases IpAddress.ofText? i.value with
    | none => simp
    | some found => simp

/-- The name of a domain has the octets of its text. -/
theorem isNamed_iff_of_isDns (h : i.isDns = true) :
    i.IsNamed g ↔ g = .dns (Utf8.encode i.value) := by
  cases g with
  | dns octets => simp [IsNamed, h]
  | ip octets =>
    refine iff_of_false ?_ nofun
    rintro ⟨hip, _⟩
    rw [isDns_of_isIp hip] at h
    cases h
  | other e => simp [IsNamed]

/-- The name of an address has its octets. -/
theorem isNamed_iff_of_address (h : i.address = .ok a) : i.IsNamed g ↔ g = .ip a.octets := by
  obtain ⟨hip, htext⟩ := address_eq_ok_iff.mp h
  cases g with
  | dns octets => simp [IsNamed, isDns_of_isIp hip]
  | ip octets =>
    simp only [IsNamed, hip, htext, Option.some.injEq, exists_eq_left', true_and,
      X509.GeneralName.ip.injEq]
    refine ⟨And.left, ?_⟩
    rintro rfl
    exact ⟨rfl, a.length_octets⟩
  | other e => simp [IsNamed]

/-- What a request can name has a name. -/
theorem exists_isNamed (h : i.IsRequestable) : ∃ g, i.IsNamed g := by
  rcases h with ⟨hdns, _⟩ | haddress
  · exact ⟨_, (isNamed_iff_of_isDns hdns).mpr rfl⟩
  · obtain ⟨hip, a, htext⟩ := haddress
    exact ⟨_, (isNamed_iff_of_address (address_eq_ok_iff.mpr ⟨hip, htext⟩)).mpr rfl⟩

/-- An address can be named in a request by its octets. -/
theorem address_ip (a : IpAddress) : (ip a).address = .ok a :=
  address_eq_ok_iff.mpr ⟨rfl, a.ofText?_toText⟩

end Identifier

namespace X509.Request

open Der.Reader

variable {key : SigningKey} {identifiers : List Identifier} {i : Identifier} {g : GeneralName}
  {r : Request} {der : Bytes}

/-- A domain has an alternative name if it is in ASCII. -/
theorem altName_of_isDns (h : i.isDns = true) : altName i = .ok g ↔
    (∀ c ∈ i.value.toList, c.toNat < 0x80) ∧ g = .dns (Utf8.encode i.value) := by
  have hascii : GeneralName.isAscii (Utf8.encode i.value) = true ↔
      ∀ c ∈ i.value.toList, c.toNat < 0x80 := by
    rw [← Utf8.encode_lt_iff, GeneralName.isAscii, List.all_eq_true]
    simp only [decide_eq_true_eq]
  unfold altName
  rw [if_pos h, ← hascii]
  dsimp only
  split
  · rename_i hfit
    rw [Except.ok.injEq, and_iff_right hfit, eq_comm]
  · rename_i hnot
    exact iff_of_false nofun fun h => hnot h.1

/-- Another identifier has an alternative name if it names an address. -/
theorem altName_of_not_isDns (h : i.isDns = false) :
    altName i = .ok g ↔ ∃ a, i.address = .ok a ∧ g = .ip a.octets := by
  unfold altName
  rw [h, if_neg Bool.false_ne_true]
  cases i.address with
  | ok a => simp [eq_comm]
  | error e => cases e <;> simp

/-- An identifier has an alternative name exactly if a request can name it. -/
theorem altName_eq_ok_iff : altName i = .ok g ↔ i.IsRequestable ∧ i.IsNamed g := by
  cases hdns : i.isDns with
  | true =>
    have hip : i.isIp ≠ true := by
      intro hip
      rw [Identifier.isDns_of_isIp hip] at hdns
      cases hdns
    have hchars : i.IsRequestable ↔ ∀ c ∈ i.value.toList, c.toNat < 0x80 := by
      simp [Identifier.IsRequestable, hdns, hip]
    rw [altName_of_isDns hdns, Identifier.isNamed_iff_of_isDns hdns, hchars]
  | false =>
    have haddress : i.IsRequestable ↔ ∃ a, i.address = .ok a := by
      simp [Identifier.IsRequestable, hdns, Identifier.address_eq_ok_iff]
    rw [altName_of_not_isDns hdns, haddress]
    constructor
    · rintro ⟨a, ha, hg⟩
      exact ⟨⟨a, ha⟩, (Identifier.isNamed_iff_of_address ha).mpr hg⟩
    · rintro ⟨⟨a, ha⟩, hg⟩
      exact ⟨a, ha, (Identifier.isNamed_iff_of_address ha).mp hg⟩

/-- A request can be made exactly if there are identifiers, all of which it can name, and a subject
for them. It is for the public key of the signer. -/
theorem create_eq_ok_iff : create key identifiers = .ok r ↔
    identifiers ≠ [] ∧ subjectFor identifiers = .ok r.subject ∧
      r.publicKey = key.publicPoint.octets ∧
      List.Forall₂ (fun i g => i.IsRequestable ∧ i.IsNamed g) identifiers r.altNames := by
  simp only [← altName_eq_ok_iff, ← mapM_eq_ok_iff]
  obtain ⟨subject, publicKey, altNames⟩ := r
  constructor
  · intro h
    obtain ⟨found, hfound, h⟩ := bind_eq_ok h
    obtain ⟨names, hnames, h⟩ := bind_eq_ok h
    split at h
    · cases h
    · rename_i hempty
      cases h
      refine ⟨?_, hfound, rfl, hnames⟩
      rintro rfl
      cases hnames
      exact hempty rfl
  · rintro ⟨hne, hsubject, rfl, hnames⟩
    dsimp only at hsubject hnames
    have hempty : altNames ≠ [] := by
      rintro rfl
      cases mapM_eq_ok_iff.mp hnames
      exact hne rfl
    unfold create
    rw [hsubject, ok_bind, hnames, ok_bind, if_neg (by simpa using hempty)]
    rfl

/-- A request has octets if they are not too long. -/
theorem make_eq_ok_iff : make key identifiers = .ok der ↔
    ∃ r, create key identifiers = .ok r ∧ der = r.sign key ∧ der.length ≤ Der.longest := by
  unfold make
  cases create key identifiers with
  | error e => exact iff_of_false nofun (by rintro ⟨_, ⟨⟩, _⟩)
  | ok r =>
    simp only [ok_bind, Except.ok.injEq, exists_eq_left']
    split
    · rename_i hlong
      refine iff_of_false (by rintro ⟨⟩) ?_
      rintro ⟨rfl, hshort⟩
      omega
    · rename_i hshort
      simp only [pure, Except.pure, Except.ok.injEq]
      constructor
      · rintro rfl
        exact ⟨rfl, Nat.le_of_not_lt hshort⟩
      · rintro ⟨rfl, _⟩
        rfl

/-- The subject for identifiers can be read back. -/
theorem isReadable_of_subjectFor {subject : Name} (h : subjectFor identifiers = .ok subject) :
    Name.IsReadable subject := by
  unfold subjectFor at h
  split at h
  · cases h
    exact fun _ hset => absurd hset List.not_mem_nil
  · split at h
    · rename_i hname
      cases h
      exact Name.isReadable_of_ofText? hname
    · cases h

/-- The name of an identifier is a domain in ASCII or an address. -/
theorem isPlain_of_isNamed (h : i.IsRequestable) (hg : i.IsNamed g) : g.IsPlain := by
  cases g with
  | dns octets =>
    obtain ⟨hdns, rfl⟩ := hg
    rcases h with ⟨_, hchars⟩ | ⟨hip, _⟩
    · refine List.all_eq_true.mpr fun b hb => decide_eq_true ?_
      exact (Utf8.encode_lt_iff _).mpr hchars b hb
    · rw [Identifier.isDns_of_isIp hip] at hdns
      cases hdns
  | ip octets => trivial
  | other e => exact hg

/-- An extension is read back. -/
theorem reads_extension {e : Extension} (h : Der.isOid e.oid = true) :
    Reads Extension.read e.write e := by
  obtain ⟨oid, critical, value⟩ := e
  have hvalue : Reads (do return (⟨oid, critical, ← content 0x04⟩ : Extension))
      (Der.write 0x04 value) ⟨oid, critical, value⟩ := (reads_content (by decide)).bind_pure rfl
  refine reads_within (by decide) ?_
  rw [List.append_assoc]
  refine (reads_oid h).then ?_
  cases critical with
  | true => exact reads_boolOrFalse_true.then hvalue.all
  | false => exact (reads_boolOrFalse_false (by decide) hvalue).all

/-- A public key is read back. -/
theorem reads_publicKey (b : Bytes) : Reads readPublicKey (writePublicKey b) b := by
  have hcurve : Reads (do if (← Der.Reader.oid) ≠ Oid.p256 then failure)
      (Der.write 0x06 Oid.p256) () := (reads_oid (by decide)).bind_pure rfl
  have halgorithm : Reads (within 0x30 do
      if (← Der.Reader.oid) ≠ Oid.ecPublicKey then failure
      if (← Der.Reader.oid) ≠ Oid.p256 then failure) SigningKey.algorithm () :=
    reads_within (by decide) ((reads_oid (by decide)).then_check hcurve.all)
  have hbits : Reads (SigningKey.wholeBits 0x03) (Der.write 0x03 (0 :: b)) b :=
    (reads_bitString (by decide) b).bind_pure rfl
  exact reads_within (by decide) (halgorithm.then hbits.all)

/-- The octets by which a request asks for an extension. -/
def writeExtensionRequest (e : Extension) : Bytes :=
  Der.write 0xA0 (Der.write 0x30 (Der.write 0x06 Oid.extensionRequest ++
    Der.write 0x31 (Der.write 0x30 e.write)))

/-- The extension that a request asks for is read back. -/
theorem reads_extensionRequest {e : Extension} (h : Der.isOid e.oid = true) :
    Reads readExtension (writeExtensionRequest e) e := by
  have hset : Reads (within 0x31 (within 0x30 Extension.read))
      (Der.write 0x31 (Der.write 0x30 e.write)) e :=
    reads_within (by decide) (reads_within (by decide) (reads_extension h).all).all
  have hoid : Reads Der.Reader.oid (Der.write 0x06 Oid.extensionRequest) Oid.extensionRequest :=
    reads_oid (by decide)
  unfold readExtension writeExtensionRequest
  refine reads_within (by decide) ?_
  refine (reads_within (by decide) ?_).all
  exact hoid.then_check hset.all

/-- The alternative names of a request are read back, unless they are too long. -/
theorem readAltNames_extension (hnames : ∀ g ∈ r.altNames, g.IsPlain)
    (hlength : r.extension.value.length ≤ Der.longest) :
    readAltNames r.extension.value = some r.altNames :=
  (GeneralName.reads_list_plain hnames).all.whole_eq hlength

/-- The part of a request that is signed is read back, with the subject in order. -/
theorem reads_info (hsubject : Name.IsReadable r.subject)
    (hnames : readAltNames r.extension.value = some r.altNames) :
    Reads readInfo r.writeInfo ⟨Name.sorted r.subject, r.publicKey, r.altNames⟩ := by
  have hoid : Der.isOid r.extension.oid = true := by
    change Der.isOid Oid.subjectAltName = true
    decide
  unfold readInfo writeInfo
  refine reads_within (by decide) ?_
  rw [List.append_assoc, List.append_assoc]
  refine reads_small_zero.then_check (hsubject.reads.then ((reads_publicKey r.publicKey).then ?_))
  refine ((reads_extensionRequest hoid).bind_pure ?_).all
  rw [hnames]
  exact if_neg (not_not_intro rfl)

/-- The alternative names are not longer than the request. -/
theorem length_value_le (r : Request) (key : SigningKey) :
    r.extension.value.length ≤ (r.sign key).length := by
  have hextension : r.extension.value.length ≤ r.extension.write.length := by
    refine Nat.le_trans ?_ (Der.length_le_length_write 0x30 _)
    rw [List.length_append]
    exact Nat.le_add_left_of_le (Der.length_le_length_write 0x04 _)
  have hrequest : r.extension.write.length ≤ (writeExtensionRequest r.extension).length := by
    refine Nat.le_trans ?_ (Der.length_le_length_write 0xA0 _)
    refine Nat.le_trans ?_ (Der.length_le_length_write 0x30 _)
    rw [List.length_append]
    refine Nat.le_add_left_of_le (Nat.le_trans ?_ (Der.length_le_length_write 0x31 _))
    exact Der.length_le_length_write 0x30 _
  have hinfo : (writeExtensionRequest r.extension).length ≤ r.writeInfo.length := by
    refine Nat.le_trans ?_ (Der.length_le_length_write 0x30 _)
    rw [List.length_append]
    exact Nat.le_add_left _ _
  have hsigned : r.writeInfo.length ≤ (r.sign key).length := by
    refine Nat.le_trans ?_ (Der.length_le_length_write 0x30 _)
    rw [List.length_append, List.length_append, Nat.add_assoc]
    exact Nat.le_add_right _ _
  omega

/-- A number of a signature has at most 39 octets as an integer. -/
theorem length_writeNatural_le {n : Nat} (h : n < P256.n) : (Der.writeNatural n).length ≤ 39 := by
  have hwidth : Octets.width n ≤ 32 := by
    by_cases hn : n = 0
    · rw [hn]
      decide
    · have hlog : n.log2 < 256 := (Nat.log2_lt hn).mpr (Nat.lt_trans h (by decide))
      unfold Octets.width
      omega
  have hoctets : (Der.naturalOctets n).length ≤ 33 := by
    unfold Der.naturalOctets Octets.minimal
    dsimp only
    split
    · rw [List.length_cons, Octets.length_fixed]
      omega
    · rw [Octets.length_fixed]
      omega
  have hwrite := Der.length_write_le 0x02 (Nat.le_trans hoctets (by decide))
  rw [Der.writeNatural]
  omega

/-- A request that is not nearly too long can be made, whatever its signature. -/
theorem exists_make_of_create (h : create key identifiers = .ok r)
    (hlength : r.writeInfo.length + 200 ≤ Der.longest) : ∃ der, make key identifiers = .ok der := by
  obtain ⟨hr, hs⟩ := key.sign_lt r.writeInfo
  have hsum : (Der.writeNatural (key.sign r.writeInfo).r ++
      Der.writeNatural (key.sign r.writeInfo).s).length ≤ 78 := by
    rw [List.length_append]
    exact Nat.add_le_add (length_writeNatural_le hr) (length_writeNatural_le hs)
  have hsignature : (0 :: writeSignature (key.sign r.writeInfo)).length ≤ 85 := by
    have hwrite := Der.length_write_le 0x30 (Nat.le_trans hsum (by decide))
    rw [List.length_cons, writeSignature]
    omega
  have hbits := Der.length_write_le 0x03 (Nat.le_trans hsignature (by decide))
  have halgorithm : (Der.write 0x30 (Der.write 0x06 Oid.ecdsaWithSha256)).length = 12 := by decide
  have hcontent : (r.writeInfo ++ Der.write 0x30 (Der.write 0x06 Oid.ecdsaWithSha256) ++
      Der.write 0x03 (0 :: writeSignature (key.sign r.writeInfo))).length ≤
        r.writeInfo.length + 103 := by
    rw [List.length_append, List.length_append, halgorithm]
    omega
  have hwhole := Der.length_write_le 0x30 (Nat.le_trans hcontent (by omega))
  refine ⟨_, make_eq_ok_iff.mpr ⟨r, h, rfl, ?_⟩⟩
  rw [sign]
  omega

/-- A request is read back from its octets, with the subject in order, unless they are too long. -/
theorem decode?_sign (hsubject : Name.IsReadable r.subject) (hnames : ∀ g ∈ r.altNames, g.IsPlain)
    (hlength : (r.sign key).length ≤ Der.longest) :
    decode? (r.sign key) = some ⟨Name.sorted r.subject, r.publicKey, r.altNames⟩ := by
  have hvalue := readAltNames_extension hnames (Nat.le_trans (length_value_le r key) hlength)
  have halgorithm : Reads (within 0x30 Der.Reader.oid)
      (Der.write 0x30 (Der.write 0x06 Oid.ecdsaWithSha256)) Oid.ecdsaWithSha256 :=
    reads_within (by decide) (reads_oid (by decide)).all
  have hsignature (found : Request) : Reads (do
      let _ ← SigningKey.wholeBits 0x03
      return found) (Der.write 0x03 (0 :: writeSignature (key.sign r.writeInfo))) found := by
    have hbits : Reads (SigningKey.wholeBits 0x03)
        (Der.write 0x03 (0 :: writeSignature (key.sign r.writeInfo))) _ :=
      (reads_bitString (by decide) _).bind_pure rfl
    exact hbits.bind_pure rfl
  have hread : Reads read (r.sign key) ⟨Name.sorted r.subject, r.publicKey, r.altNames⟩ := by
    unfold read sign
    refine reads_within (by decide) ?_
    rw [List.append_assoc]
    exact (reads_info hsubject hvalue).then (halgorithm.then (hsignature _).all)
  exact hread.all.whole_eq hlength

/-- A request can be made exactly if there are identifiers, all of which it can name, and a subject
for them. -/
theorem exists_create_iff : (∃ r, create key identifiers = .ok r) ↔
    identifiers ≠ [] ∧ (∀ i ∈ identifiers, i.IsRequestable) ∧
      ∃ subject, subjectFor identifiers = .ok subject := by
  have hnames : (∃ names, List.Forall₂ (fun i g => i.IsRequestable ∧ i.IsNamed g) identifiers
      names) ↔ ∀ i ∈ identifiers, i.IsRequestable := by
    simp only [← altName_eq_ok_iff, ← mapM_eq_ok_iff, exists_mapM_eq_ok_iff]
    refine forall₂_congr fun i _ => ?_
    simp only [altName_eq_ok_iff, exists_and_left, and_iff_left_iff_imp]
    exact Identifier.exists_isNamed
  rw [← hnames]
  constructor
  · rintro ⟨r, h⟩
    obtain ⟨hne, hsubject, _, hall⟩ := create_eq_ok_iff.mp h
    exact ⟨hne, ⟨_, hall⟩, ⟨_, hsubject⟩⟩
  · rintro ⟨hne, ⟨names, hall⟩, subject, hsubject⟩
    exact ⟨⟨subject, _, names⟩, create_eq_ok_iff.mpr ⟨hne, hsubject, rfl, hall⟩⟩

/-- A request cannot be made without identifiers, or for one that it cannot name. -/
theorem create_eq_error (h : identifiers = [] ∨ ∃ i ∈ identifiers, ¬i.IsRequestable) :
    ∃ fault, create key identifiers = .error fault := by
  cases hcreate : create key identifiers with
  | error fault => exact ⟨fault, rfl⟩
  | ok r =>
    obtain ⟨hne, hall, _⟩ := exists_create_iff.mp ⟨r, hcreate⟩
    rcases h with rfl | ⟨i, hi, hnot⟩
    · exact absurd rfl hne
    · exact absurd (hall i hi) hnot

/-- A request that is made is read back with its names. -/
theorem exists_decode?_of_make (h : make key identifiers = .ok der) :
    ∃ found, decode? der = some found ∧ found.publicKey = key.publicPoint.octets ∧
      List.Forall₂ Identifier.IsNamed identifiers found.altNames := by
  obtain ⟨r, hcreate, rfl, hlength⟩ := make_eq_ok_iff.mp h
  obtain ⟨_, hsubject, hkey, hnames⟩ := create_eq_ok_iff.mp hcreate
  have hplain : ∀ g ∈ r.altNames, g.IsPlain := by
    intro g hg
    obtain ⟨i, _, hrequestable, hnamed⟩ := exists_of_mem_right hnames hg
    exact isPlain_of_isNamed hrequestable hnamed
  exact ⟨_, decode?_sign (isReadable_of_subjectFor hsubject) hplain hlength, hkey,
    hnames.imp fun _ _ => And.right⟩

/-- A request is refused without identifiers and for identifiers that it cannot name. The octets of
a request that is made, which an order of these identifiers is finalized with and which the server
finds in what it is sent, are those of a request for the public key of the signer and for the
identifiers, one by one: a domain by its text, and an address by its octets. -/
theorem make_asks_for_identifiers (key : SigningKey) (identifiers : List Identifier) :
    ((identifiers = [] ∨ ∃ i ∈ identifiers, ¬i.IsRequestable) →
      ∃ fault, create key identifiers = .error fault ∧ make key identifiers = .error fault) ∧
    (∀ der, make key identifiers = .ok der →
      (∃ found, decode? der = some found ∧ found.publicKey = key.publicPoint.octets ∧
        List.Forall₂ Identifier.IsNamed identifiers found.altNames ∧
        ∀ (n : Nat) (a : IpAddress), identifiers[n]? = some (Identifier.ip a) →
          found.altNames[n]? = some (.ip a.octets)) ∧
      (∀ order : Order, order.content.identifiers = identifiers →
        Order.certificateRequest order key = .ok der) ∧
      ∃ sent, Resource.Finalization.codec.decode
          (Resource.Finalization.codec.write (.ofRequest der)) = .ok sent ∧
        Base64.decodeUrl? sent.request = some der) := by
  refine ⟨fun h => ?_, fun der h => ⟨?_, ?_, ?_⟩⟩
  · obtain ⟨fault, hfault⟩ : ∃ fault, create key identifiers = .error fault := create_eq_error h
    exact ⟨fault, hfault, by rw [make, hfault]; rfl⟩
  · obtain ⟨found, hfound, hkey, hnames⟩ := exists_decode?_of_make h
    refine ⟨found, hfound, hkey, hnames, fun n a hn => ?_⟩
    obtain ⟨hlt, hi⟩ := List.getElem?_eq_some_iff.mp hn
    have hlt' : n < found.altNames.length := hnames.length_eq ▸ hlt
    have hnamed := hnames.get hlt hlt'
    rw [List.get_eq_getElem, hi, Identifier.isNamed_iff_of_address (Identifier.address_ip a)]
      at hnamed
    exact List.getElem?_eq_some_iff.mpr ⟨hlt', hnamed⟩
  · rintro order rfl
    exact mapError_eq_ok_iff.mpr h
  · exact ⟨_, (Resource.Finalization.recovers _ _).decode, Base64.decodeUrl?_encodeUrl der⟩

/-- A domain and an address are asked for by text and octets. -/
theorem make_asks_for_domain_and_address :
    ∃ der, make ⟨1, by decide, by decide⟩
        [{ type := "dns", value := "example.org" }, .ip (.v4 ⟨127, 0, 0, 1⟩)] = .ok der ∧
      (decode? der).map (·.altNames) =
        some [.dns (Utf8.encode "example.org"), .ip [127, 0, 0, 1]] := by
  have hmade : (make ⟨1, by decide, by decide⟩
      [{ type := "dns", value := "example.org" }, .ip (.v4 ⟨127, 0, 0, 1⟩)]).isOk = true := by
    decide +kernel
  cases hmake : make ⟨1, by decide, by decide⟩
      [{ type := "dns", value := "example.org" }, .ip (.v4 ⟨127, 0, 0, 1⟩)] with
  | error fault =>
    rw [hmake] at hmade
    cases hmade
  | ok der =>
    obtain ⟨⟨found, hfound, _, hnames, _⟩, _⟩ := (make_asks_for_identifiers _ _).2 der hmake
    refine ⟨der, rfl, ?_⟩
    rw [hfound, Option.map_some, Option.some.injEq]
    obtain ⟨g, _, hg, hnames, hfirst⟩ := List.forall₂_cons_left_iff.mp hnames
    obtain ⟨g', _, hg', hnil, rfl⟩ := List.forall₂_cons_left_iff.mp hnames
    obtain rfl := List.forall₂_nil_left_iff.mp hnil
    rw [hfirst, (Identifier.isNamed_iff_of_isDns rfl).mp hg,
      (Identifier.isNamed_iff_of_address (Identifier.address_ip _)).mp hg']
    rfl

end X509.Request

end AcmeClient
