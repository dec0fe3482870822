import AcmeClient.Proofs.Der.RoundTrip
import AcmeClient.Proofs.Pem.Documents
import AcmeClient.X509.PrivateKey

/-!
# Private keys are read back

The text of a key is a document with the number of the key and its public key in it. Both are found
again, and they belong together.
-/

namespace AcmeClient.SigningKey

open Der.Reader X509

/-- A key is found again in its octets. -/
theorem ofOctets?_octets (key : SigningKey) : ofOctets? key.octets = some key := by
  have hlength : key.octets.length = 32 := Octets.length_fixed 32 _
  have hnat : key.octets.toNat = key.scalar :=
    Octets.toNat_fixed (Nat.lt_trans key.lt_order P256.n_lt)
  rw [ofOctets?, if_pos (by rw [hlength]; decide), hnat, ofNat?, dif_pos ⟨key.pos, key.lt_order⟩]

/-- The octets of a key with its public key. -/
def innerDer (key : SigningKey) : Bytes :=
  Der.write 0x30 <| Der.writeNatural 1 ++ Der.write 0x04 key.octets ++
    Der.write 0xA1 (Der.write 0x03 (0 :: key.publicPoint.octets))

/-- The inner element of a key is read back. -/
theorem reads_inner (key : SigningKey) : Reads readInner key.innerDer key := by
  have hone : Reads small (Der.writeNatural 1) 1 := by
    have hinteger : Reads integer (Der.writeNatural 1) [1] :=
      (reads_content (by decide)).bind_pure rfl
    exact hinteger.bind_pure rfl
  have hpublic : Reads (tagged 1 (within 0xA1 (wholeBits 0x03)))
      (Der.write 0xA1 (Der.write 0x03 (0 :: key.publicPoint.octets)))
      (some key.publicPoint.octets) := by
    have hbits : Reads (wholeBits 0x03) (Der.write 0x03 (0 :: key.publicPoint.octets))
        key.publicPoint.octets := (reads_bitString (by decide) _).bind_pure rfl
    exact reads_tagged (by decide) (by decide) (reads_within (by decide) hbits.all)
  unfold readInner innerDer
  refine reads_within (by decide) ?_
  rw [List.append_assoc]
  refine hone.then_check ((reads_content (by decide)).then ?_)
  refine readsAll_of_higher (by decide) (by decide) (hpublic.bind_pure ?_).all
  simp [ofOctets?_octets, hasPublicOctets]

/-- The octets of a key are not too long for readers. -/
theorem length_toDer_le (key : SigningKey) :
    key.innerDer.length ≤ Der.longest ∧ key.toDer.length ≤ Der.longest := by
  have hwrite (tag : UInt8) {content : Bytes} {n : Nat} (h : content.length ≤ n) (hn : n ≤ 300) :
      (Der.write tag content).length ≤ n + 6 := by
    have hlength := Der.length_write_le tag (Nat.le_trans h (Nat.le_trans hn (by decide)))
    omega
  have hpublic : (0 :: key.publicPoint.octets).length ≤ 66 := by simp [P256.Point.octets]
  have hinner : key.innerDer.length ≤ 140 := by
    have hversion : (Der.writeNatural 1).length = 3 := by decide
    have hoctets := hwrite 0x04 (Nat.le_of_eq (Octets.length_fixed 32 key.scalar)) (by decide)
    have hbits := hwrite 0xA1 (hwrite 0x03 hpublic (by decide)) (by decide)
    refine hwrite 0x30 (n := 134) ?_ (by decide)
    simp only [List.length_append, SigningKey.octets]
    omega
  have houter : key.toDer.length ≤ 176 := by
    have hversion : (Der.writeNatural 0 ++ algorithm).length = 24 := by decide
    have hlast := hwrite 0x04 hinner (by decide)
    have hcontent :
        (Der.writeNatural 0 ++ algorithm ++ Der.write 0x04 key.innerDer).length ≤ 170 := by
      rw [List.length_append]
      omega
    exact hwrite 0x30 hcontent (by decide)
  exact ⟨Nat.le_trans hinner (by decide), Nat.le_trans houter (by decide)⟩

/-- A key is read back from its octets. -/
theorem reads_toDer (key : SigningKey) : Reads read key.toDer key := by
  have hinner : whole readInner key.innerDer = some key :=
    (reads_inner key).all.whole_eq key.length_toDer_le.1
  have halgorithm : Reads (within 0x30 do
      if (← oid) ≠ Oid.ecPublicKey then failure
      if (← oid) ≠ Oid.p256 then failure) algorithm () := by
    have hcurve : Reads (do if (← oid) ≠ Oid.p256 then failure) (Der.write 0x06 Oid.p256) () :=
      (reads_oid (by decide)).bind_pure (if_neg (not_not_intro rfl))
    exact reads_within (by decide) ((reads_oid (by decide)).then_check hcurve.all)
  change Reads _ (Der.write 0x30 (Der.writeNatural 0 ++ algorithm ++ Der.write 0x04 key.innerDer)) _
  unfold read
  refine reads_within (by decide) ?_
  rw [List.append_assoc, ← List.append_nil (Der.write 0x04 key.innerDer)]
  refine reads_small_zero.then (halgorithm.then ((reads_content (by decide)).then ?_))
  refine readsAll_nil fun _ => ?_
  rw [if_neg (by decide)]
  dsimp only
  rw [bind_of_eq_some (show many passField [] = some ([], []) from rfl), hinner]
  rfl

/-- A key is found again in its text. -/
theorem ofPem?_toPem (key : SigningKey) : ofPem? key.toPem = some key := by
  have hne : key.toDer ≠ [] := List.cons_ne_nil _ _
  have hlabel : Pem.isLabel pemLabel.toList = true := by decide
  rw [ofPem?, toPem, Pem.decode?_encode hlabel hne]
  exact (if_pos rfl).trans (key.reads_toDer.all.whole_eq key.length_toDer_le.2)

/-- The text of a key can be read. -/
theorem isSome_ofPem?_toPem (key : SigningKey) : (ofPem? key.toPem).isSome := by
  rw [ofPem?_toPem, Option.isSome_some]

end AcmeClient.SigningKey
