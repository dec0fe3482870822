import AcmeClient.Jws.Basic
import AcmeClient.Proofs.Crypto.FixedWidth
import AcmeClient.Proofs.Encoding.Base64
import AcmeClient.Proofs.Json.Object

/-!
# Signed messages say what was signed

The text of a signed message is an object of three texts in base 64. Decoded, they are the header in
JSON, the payload and the signature of the first two as they stand in the message.
-/

namespace AcmeClient

open Json

/-- The public key in JSON. -/
def Jwk.value (k : Jwk) : Value :=
  .object [("alg", .text "ES256"), ("crv", .text "P-256"), ("kty", .text "EC"),
    ("use", .text "sig"), ("x", .text (Base64.encodeUrl k.x)), ("y", .text (Base64.encodeUrl k.y))]

/-- Whether a member of a header names the key of a signer: by the URL of its account, or else by
the coordinates of the public key. -/
def Signer.IsNamedBy (s : Signer) (member : String × Value) : Prop :=
  match s.account with
  | some url => member = ("kid", .text url)
  | none => ∃ xText yText x y, Base64.decodeUrl? xText = some x ∧
    Base64.decodeUrl? yText = some y ∧ x.length = 32 ∧ y.length = 32 ∧
    Bytes.toNat x = s.key.publicPoint.x ∧ Bytes.toNat y = s.key.publicPoint.y ∧
    member = ("jwk", .object [("alg", .text "ES256"), ("crv", .text "P-256"), ("kty", .text "EC"),
      ("use", .text "sig"), ("x", .text xText), ("y", .text yText)])

namespace Jws

/-- The member that names the key, in JSON. -/
def referenceValue : KeyReference → String × Value
  | .embedded key => ("jwk", key.value)
  | .account url => ("kid", .text url)

/-- A header in JSON. -/
def Header.value (h : Header) : Value :=
  .object [("alg", .text "ES256"), ("nonce", .text h.nonce), ("url", .text h.url),
    referenceValue h.reference]

/-- A message in JSON. -/
def value (m : Jws) : Value :=
  .object [("protected", .text (protectedText m.header)),
    ("payload", .text (payloadText m.payload)), ("signature", .text (Base64.encodeUrl m.signature))]

/-- A public key is written as its value. -/
theorem write_jwk (k : Jwk) : k.write = k.value.write := by
  simp [Jwk.write, Jwk.value, Jwk.coordinates, Jwk.member, Value.write, Value.writeMembers]

/-- A header is written as its value. -/
theorem Header.write_eq (h : Header) : h.write = h.value.write := by
  cases hr : h.reference <;>
    simp [Header.write, Header.value, referenceMember, referenceValue, hr, write_jwk, Value.write,
      Value.writeMembers]

/-- A message is written as its value. -/
theorem write_eq (m : Jws) : m.write = m.value.write := by
  simp [Jws.write, Jws.value, Value.write, Value.writeMembers]

/-- A public key is read back. -/
theorem reads_jwk (depth : Nat) (k : Jwk) : Reads (depth + 2) k.value.write k.value := by
  have hreads : Reads (depth + 2) k.value.write _ := reads_object fun m hm => by
    simp only [List.mem_cons, List.not_mem_nil, or_false] at hm
    rcases hm with rfl | rfl | rfl | rfl | rfl | rfl <;> exact reads_text depth _
  simp (disch := decide) only [collect, List.foldl_cons, List.foldl_nil, insertMember_nil,
    insertMember_of_gt] at hreads
  exact hreads

/-- What names the key is read back. -/
theorem reads_reference (depth : Nat) (r : KeyReference) :
    Reads (depth + 2) (referenceValue r).2.write (referenceValue r).2 := by
  cases r with
  | embedded key => exact reads_jwk depth key
  | account url => exact reads_text (depth + 1) url

/-- A header is read back, with its members in the order of their names. -/
theorem decode_header (h : Header) : Codec.value.decode h.write =
    .ok (.object [("alg", .text "ES256"), referenceValue h.reference, ("nonce", .text h.nonce),
      ("url", .text h.url)]) := by
  rw [Header.write_eq]
  have hreads : Reads nestingLimit h.value.write _ := reads_object fun m hm => by
    simp only [List.mem_cons, List.not_mem_nil, or_false] at hm
    rcases hm with rfl | rfl | rfl | rfl
    · exact reads_text 126 _
    · exact reads_text 126 _
    · exact reads_text 126 _
    · exact reads_reference 125 h.reference
  rw [decode_of_reads hreads]
  cases h.reference <;> simp (disch := decide) only [collect, List.foldl_cons, List.foldl_nil,
    insertMember_of_lt, insertMember_of_gt, insertMember_nil, referenceValue]

/-- A message is read back, with its members in the order of their names. -/
theorem decode_write (m : Jws) : Codec.value.decode m.write =
    .ok (.object [("payload", .text (payloadText m.payload)),
      ("protected", .text (protectedText m.header)),
      ("signature", .text (Base64.encodeUrl m.signature))]) := by
  rw [write_eq]
  have hreads : Reads nestingLimit m.value.write _ := reads_object fun x hx => by
    simp only [List.mem_cons, List.not_mem_nil, or_false] at hx
    rcases hx with rfl | rfl | rfl <;> exact reads_text 126 _
  rw [decode_of_reads hreads]
  simp (disch := decide) only [collect, List.foldl_cons, List.foldl_nil, insertMember_of_lt,
    insertMember_of_gt, insertMember_nil]

/-- The three texts of a signed message. -/
structure Parts where
  header : String
  payload : String
  signature : String

/-- Whether a text is a signed message in three parts that say what was signed. -/
structure IsEnvelope (signer : Signer) (url nonce : String) (payload : Option Bytes) (text : Bytes)
    (parts : Parts) : Prop where
  /-- The text is an object of these parts. -/
  parsed : Codec.value.decode text = .ok (.object [("payload", .text parts.payload),
    ("protected", .text parts.header), ("signature", .text parts.signature)])
  /-- The header is an object that names algorithm, nonce, URL and key. -/
  header : ∃ b key, Base64.decodeUrl? parts.header = some b ∧
    Codec.value.decode b = .ok (.object [("alg", .text "ES256"), key, ("nonce", .text nonce),
      ("url", .text url)]) ∧ signer.IsNamedBy key
  /-- There is no payload exactly if its text is empty. -/
  payload_empty : parts.payload = "" ↔ payload = none
  payload_decoded : ∀ b, payload = some b → Base64.decodeUrl? parts.payload = some b
  /-- The signature is that of header and payload as they stand in the text. -/
  signature : ∃ b, Base64.decodeUrl? parts.signature = some b ∧ b.length = 64 ∧
    let signed := signer.key.sign (Utf8.encode (parts.header ++ "." ++ parts.payload))
    b = signed.octets ∧ Bytes.toNat (b.take 32) = signed.r ∧ Bytes.toNat (b.drop 32) = signed.s

/-- What names the key of a signer is the URL of its account or its public key. -/
theorem isNamedBy_reference (signer : Signer) :
    signer.IsNamedBy (referenceValue signer.reference) := by
  unfold Signer.IsNamedBy Signer.reference
  cases signer.account with
  | some url => rfl
  | none =>
    obtain ⟨hx, hy⟩ := signer.key.toNat_publicPoint
    exact ⟨_, _, _, _, Base64.decodeUrl?_encodeUrl _, Base64.decodeUrl?_encodeUrl _,
      Octets.length_fixed 32 _, Octets.length_fixed 32 _, hx, hy, rfl⟩

/-- A message that is signed says what was signed. -/
theorem isEnvelope_sign (signer : Signer) (url nonce : String) {payload : Option Bytes}
    (h : payload ≠ some []) :
    IsEnvelope signer url nonce payload (signer.sign url nonce payload).write
      { header := protectedText { nonce, url, reference := signer.reference }
        payload := payloadText payload
        signature := Base64.encodeUrl (signer.sign url nonce payload).signature } where
  parsed := decode_write _
  header := ⟨_, _, Base64.decodeUrl?_encodeUrl _, decode_header _, isNamedBy_reference signer⟩
  payload_empty := by
    cases payload with
    | none => simp [payloadText]
    | some b => simpa [payloadText, Base64.encodeUrl_eq_empty_iff] using h
  payload_decoded b hb := by
    rw [hb]
    exact Base64.decodeUrl?_encodeUrl b
  signature :=
    ⟨_, Base64.decodeUrl?_encodeUrl _, Signature.length_octets _, rfl,
      signer.key.toNat_octets_sign _⟩

end Jws

end AcmeClient
