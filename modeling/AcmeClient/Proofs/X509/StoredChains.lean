import AcmeClient.Order.Basic
import AcmeClient.Proofs.Effects
import AcmeClient.Proofs.X509.Outline
import AcmeClient.Proofs.X509.PrivateKey

/-!
# Chains that are stored and loaded

A chain that was downloaded can be read as it is, whatever its length. Loading it with its key is
another matter: the text must be a document, so a chain with a single certificate in full lines is
loaded and every other one is refused.
-/

namespace AcmeClient.CertificateBundle

open X509

/-- Whether blocks are a chain of certificates that can be read. -/
structure IsIssued (blocks : List Pem.Block) : Prop where
  chain : Pem.IsChain blocks
  certificates : ∀ block ∈ blocks, (Certificate.decode? block.octets).isSome

/-- The text of a chain. -/
def chainText (blocks : List Pem.Block) : String := .ofList (Pem.chainChars blocks)

/-- Whether what is read of a bundle is what the blocks of a chain hold, the end entity first. -/
structure Holds (b : CertificateBundle) (blocks : List Pem.Block) : Prop where
  chain : b.chain = .ok (blocks.map (·.octets))
  endEntity : ∃ first ∈ blocks.head?, ∃ c, Certificate.decode? first.octets = some c ∧
    b.endEntity = .ok c
  /-- Everything else is read as if the first certificate stood alone. -/
  alone : ∀ first ∈ blocks.head?, ∀ alone : CertificateBundle,
    alone.certificate = chainText [first] →
      alone.renewalId = b.renewalId ∧ ∀ now, alone.validDaysLeft now = b.validDaysLeft now

/-- Whether blocks are a single one that is a document. -/
def IsSingleDocument (blocks : List Pem.Block) : Prop :=
  ∃ block, blocks = [block] ∧ block.IsDocument

variable {b : CertificateBundle} {blocks : List Pem.Block} {key : String}

/-- The chain of a bundle consists of the octets of the blocks. -/
theorem chain_eq (h : Pem.IsChain blocks) (hb : b.certificate = chainText blocks) :
    b.chain = .ok (blocks.map (·.octets)) := by
  rw [chain, hb, chainText, Pem.certificates?_chainChars h.2]

/-- The end entity of a bundle is the certificate of the first block. -/
theorem endEntity_eq {first : Pem.Block} {rest : List Pem.Block} (h : Pem.IsChain (first :: rest))
    (hb : b.certificate = chainText (first :: rest)) {c : Certificate}
    (hc : Certificate.decode? first.octets = some c) : b.endEntity = .ok c := by
  rw [endEntity, chain_eq h hb]
  simp only [List.map_cons, ok_bind, hc]
  rfl

/-- A bundle holds the chain whose text it has. -/
theorem holds_of_certificate (h : IsIssued blocks) (hb : b.certificate = chainText blocks) :
    b.Holds blocks := by
  obtain ⟨hne, hends⟩ := h.chain
  cases blocks with
  | nil => exact absurd rfl hne
  | cons first rest =>
    obtain ⟨c, hc⟩ := Option.isSome_iff_exists.mp (h.certificates first List.mem_cons_self)
    have hentity := endEntity_eq h.chain hb hc
    refine ⟨chain_eq h.chain hb, ⟨first, rfl, c, hc, hentity⟩, ?_⟩
    rintro _ ⟨⟩ alone halone
    have hsingle : Pem.IsChain [first] := ⟨List.cons_ne_nil _ _, nofun⟩
    have hsame : alone.endEntity = b.endEntity :=
      (endEntity_eq hsingle halone hc).trans hentity.symm
    exact ⟨by rw [renewalId, renewalId, hsame],
      fun now => by rw [validDaysLeft, validDaysLeft, hsame]⟩

/-- Only a single document is taken for a certificate. -/
theorem isCertificate_chainText (h : IsIssued blocks) :
    isCertificate (chainText blocks) = true ↔ IsSingleDocument blocks := by
  have hlabel : Pem.isLabel "CERTIFICATE".toList = true := by decide
  rw [chainText, Pem.chainChars]
  rcases blocks with _ | ⟨block, _ | ⟨next, rest⟩⟩
  · exact absurd rfl h.chain.1
  · rw [List.flatMap_singleton]
    constructor
    · intro hcertificate
      cases hdecode : Pem.decode? (.ofList (block.chars "CERTIFICATE".toList)) with
      | none =>
        rw [isCertificate, hdecode] at hcertificate
        cases hcertificate
      | some p => exact ⟨block, rfl, Pem.Block.isDocument_of_decode? hlabel hdecode⟩
    · rintro ⟨_, hblock, hdocument⟩
      obtain ⟨rfl, -⟩ := List.cons.inj hblock
      have hread : (Certificate.read block.octets).isSome := by
        obtain ⟨c, hc⟩ := Option.isSome_iff_exists.mp (h.certificates block List.mem_cons_self)
        rw [Der.Reader.whole_eq_some_iff.mp hc]
        rfl
      rw [isCertificate, hdocument.decode?_eq hlabel, String.ofList_toList]
      exact hread
  · have hnone := Pem.decode?_row hlabel block next
      (rest.flatMap (Pem.Block.chars "CERTIFICATE".toList))
    rw [List.flatMap_cons, List.flatMap_cons, isCertificate, hnone]
    constructor
    · intro hcertificate
      cases hcertificate
    · rintro ⟨_, hblock, -⟩
      cases hblock

/-- A key and a chain can be loaded if the chain is a single document. -/
theorem ofText_chainText (hkey : (SigningKey.ofPem? key).isSome) (h : IsIssued blocks) :
    ofText key (chainText blocks) = .ok b ↔
      b = ⟨key, chainText blocks⟩ ∧ IsSingleDocument blocks := by
  rw [← isCertificate_chainText h, ofText]
  by_cases hcertificate : isCertificate (chainText blocks) = true
  · rw [if_pos ⟨hcertificate, hkey⟩]
    simp [hcertificate, eq_comm]
  · rw [if_neg fun hboth => hcertificate hboth.1]
    simp [hcertificate]

/-- A bundle that is downloaded has the key that was asked for. -/
theorem privateKey_of_download {order : Order} {key : SigningKey} {s t : Session}
    (h : (order.download key).run s = (.ok b, t)) : b.privateKey = key.toPem := by
  unfold Order.download at h
  cases hurl : order.content.certificateUrl? with
  | none =>
    rw [hurl] at h
    cases h
  | some url =>
    simp only [hurl] at h
    obtain ⟨response, u, -, hpure⟩ := Attempt.run_bind_eq_ok h
    rw [Attempt.run_pure] at hpure
    have hbundle := Except.ok.inj (Prod.mk.inj hpure).1
    rw [← hbundle]

/-- What is read of a bundle with a chain is what the chain holds, whatever its length: the octets
of its blocks, and all else of the first of them. The chain can be loaded with a key exactly if it
is a single document, and then the bundle has both texts. So can a bundle that was downloaded, and
then it is the same as before. -/
theorem loads_iff_isSingleDocument (key : String) (blocks : List Pem.Block)
    (hkey : (SigningKey.ofPem? key).isSome) (h : IsIssued blocks) :
    (∀ b : CertificateBundle, b.certificate = chainText blocks → b.Holds blocks) ∧
    ((∃ b, ofText key (chainText blocks) = .ok b) ↔ IsSingleDocument blocks) ∧
    (∀ b, ofText key (chainText blocks) = .ok b → b = ⟨key, chainText blocks⟩) ∧
    ∀ (order : Order) (k : SigningKey) (b : CertificateBundle) (s t : Session),
      (order.download k).run s = (.ok b, t) → b.certificate = chainText blocks →
        (ofText b.privateKey b.certificate = .ok b ↔ IsSingleDocument blocks) := by
  refine ⟨fun b => holds_of_certificate h, ?_, fun b hb => ((ofText_chainText hkey h).mp hb).1, ?_⟩
  · simp only [ofText_chainText hkey h, exists_and_right, exists_eq, true_and]
  · intro order k b s t hrun hb
    have hprivate := privateKey_of_download hrun
    have hk : (SigningKey.ofPem? b.privateKey).isSome := hprivate ▸ k.isSome_ofPem?_toPem
    rw [hb, ofText_chainText hk h, ← hb]
    exact and_iff_right rfl

/-- A certificate alone, as it is written. -/
def smallest : Pem.Block := .ofOctets (skeleton [0x01] []) (by decide)

/-- The smallest certificate can stand in a chain of any length. -/
theorem isIssued_replicate (n : Nat) : IsIssued (List.replicate (n + 1) smallest) where
  chain := by
    refine ⟨List.cons_ne_nil _ _, fun block hblock => ?_⟩
    rw [List.eq_of_mem_replicate (List.dropLast_subset _ hblock)]
    exact List.cons_ne_nil _ _
  certificates := by
    intro block hblock
    rw [List.eq_of_mem_replicate hblock]
    decide +kernel

/-- A certificate alone can be loaded. With another one behind it, it is still the end entity, but
cannot be loaded. -/
theorem loads_iff_isSingleDocument_smallest :
    (∃ b, ofText SigningKey.smallest.toPem (chainText [smallest]) = .ok b) ∧
    (¬∃ b, ofText SigningKey.smallest.toPem (chainText [smallest, smallest]) = .ok b) ∧
    Holds ⟨SigningKey.smallest.toPem, chainText [smallest, smallest]⟩ [smallest, smallest] := by
  have hkey := SigningKey.smallest.isSome_ofPem?_toPem
  have halone :=
    loads_iff_isSingleDocument SigningKey.smallest.toPem [smallest] hkey (isIssued_replicate 0)
  have hpair := loads_iff_isSingleDocument SigningKey.smallest.toPem [smallest, smallest] hkey
    (isIssued_replicate 1)
  refine ⟨halone.2.1.mpr ⟨smallest, rfl, Pem.Block.isDocument_ofOctets _⟩, ?_, hpair.1 _ rfl⟩
  rw [hpair.2.1]
  rintro ⟨block, hblocks, -⟩
  cases hblocks

/-- Not every chain can be loaded with a key: two certificates in a row cannot. -/
theorem not_loaded_of_pair : ¬∀ (key : String) (blocks : List Pem.Block),
    (SigningKey.ofPem? key).isSome → IsIssued blocks →
      ∃ b, ofText key (chainText blocks) = .ok b := by
  intro h
  have hkey := SigningKey.smallest.isSome_ofPem?_toPem
  obtain ⟨b, hb⟩ := h SigningKey.smallest.toPem [smallest, smallest] hkey (isIssued_replicate 1)
  obtain ⟨-, block, hblocks, -⟩ := (ofText_chainText hkey (isIssued_replicate 1)).mp hb
  cases hblocks

end AcmeClient.CertificateBundle
