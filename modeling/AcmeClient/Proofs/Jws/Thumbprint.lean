import AcmeClient.Proofs.Jws.Envelope
import AcmeClient.Proofs.Text.Octets

/-!
# Thumbprints as a server computes them

A server takes the public key out of the header of a message, keeps the members that a key must
have, writes them in the order of their names without blanks, and digests that text. For a message
that embeds the key of its signer, this is the thumbprint that the client computes itself.
-/

namespace AcmeClient

open Json Reader

/-- The member of an object with a name. -/
def Json.Value.member? (name : String) : Value → Option Value
  | .object members => members.lookup name
  | _ => none

/-- The value of a string. -/
def Json.Value.text? : Value → Option String
  | .text s => some s
  | _ => none

/-- The value that octets stand for. -/
def Json.parse? (b : Bytes) : Option Value := (Codec.value.decode b).toOption

/-- The public key in the header of a message. -/
def Jws.embeddedKey? (message : Bytes) : Option Value := do
  let parts ← Json.parse? message
  let header ← (← parts.member? "protected").text?
  (← Json.parse? (← Base64.decodeUrl? header)).member? "jwk"

namespace Jwk

/-- The members that every key of a curve has, in the order of their names. -/
def essential : List String := ["crv", "kty", "x", "y"]

/-- The thumbprint of a public key in JSON, whatever other members it has. -/
def thumbprintOf? (key : Value) : Option String := do
  let members ← essential.mapM fun name => (key.member? name).map (name, ·)
  return Base64.encodeUrl (Sha256.digest (Value.object members).write)

/-- The text without blanks of the members that a key must have. -/
def canonicalText (x y : String) : String :=
  "\x7b\"crv\":\"P-256\",\"kty\":\"EC\",\"x\":\"" ++ x ++ "\",\"y\":\"" ++ y ++ "\"\x7d"

/-- A text in base 64 stands between quotes as it is. -/
theorem writeText_encodeUrl (b : Bytes) : Json.writeText (Base64.encodeUrl b) =
    octet '"' :: Utf8.encode (Base64.encodeUrl b) ++ [octet '"'] := by
  refine writeText_of_plain fun n hn => ?_
  have hplain : ∀ n < 0x80, Base64.IsUrlSymbol (Char.ofNat n) →
      escapeOctet (UInt8.ofNat n) = [UInt8.ofNat n] := by decide
  have hsymbol := Base64.isUrlSymbol_of_mem_encodeUrl (b := b)
  rw [← String.ofList_toList (s := Base64.encodeUrl b),
    Utf8.encode_ofList fun c hc => (hsymbol c hc).toNat_lt] at hn
  obtain ⟨c, hc, rfl⟩ := List.mem_map.mp hn
  refine hplain c.toNat (hsymbol c hc).toNat_lt ?_
  rw [Char.ofNat_toNat]
  exact hsymbol c hc

/-- The octets of the text without blanks. -/
theorem encode_canonicalText (x y : String) : Utf8.encode (canonicalText x y) =
    octet '\x7b' :: (writeText "crv" ++ octet ':' :: writeText "P-256" ++ octet ',' ::
      (writeText "kty" ++ octet ':' :: writeText "EC") ++ octet ',' ::
      (writeText "x" ++ octet ':' :: (octet '"' :: Utf8.encode x ++ [octet '"'])) ++ octet ',' ::
      (writeText "y" ++ octet ':' :: (octet '"' :: Utf8.encode y ++ [octet '"']))) ++
      [octet '\x7d'] := by
  have hfront : Utf8.encode "\x7b\"crv\":\"P-256\",\"kty\":\"EC\",\"x\":\"" =
      octet '\x7b' :: (writeText "crv" ++ octet ':' :: writeText "P-256" ++ octet ',' ::
        (writeText "kty" ++ octet ':' :: writeText "EC") ++ octet ',' ::
        (writeText "x" ++ [octet ':', octet '"'])) := by
    decide +kernel
  have hmiddle : Utf8.encode "\",\"y\":\"" =
      octet '"' :: octet ',' :: (writeText "y" ++ [octet ':', octet '"']) := by
    decide +kernel
  have hrear : Utf8.encode "\"\x7d" = [octet '"', octet '\x7d'] := by decide +kernel
  -- the fixed pieces are put in as equations, since a rewriting step would compare their characters
  have hpieces {front middle rear : String} {b b' b'' : Bytes} (h : Utf8.encode front = b)
      (h' : Utf8.encode middle = b') (h'' : Utf8.encode rear = b'') :
      Utf8.encode (front ++ x ++ middle ++ y ++ rear) =
        b ++ Utf8.encode x ++ b' ++ Utf8.encode y ++ b'' := by
    simp only [Utf8.encode_append, h, h', h'']
  refine (hpieces hfront hmiddle hrear).trans ?_
  simp only [List.cons_append, List.nil_append, List.append_assoc]

/-- What is digested for a thumbprint is the text without blanks. -/
theorem writeEssential_eq (k : Jwk) : k.writeEssential =
    Utf8.encode (canonicalText (Base64.encodeUrl k.x) (Base64.encodeUrl k.y)) := by
  rw [encode_canonicalText]
  simp only [writeEssential, coordinates, member, writeObject, commaSeparated, writeText_encodeUrl,
    List.map_cons, List.map_nil, List.cons_append, List.nil_append, List.append_assoc]

/-- A server finds the thumbprint of a public key in JSON. -/
theorem thumbprintOf?_value (k : Jwk) : thumbprintOf? k.value = some k.thumbprint := by
  simp [thumbprintOf?, essential, value, Value.member?, List.lookup_cons, thumbprint,
    writeEssential, coordinates, member, Value.write, Value.writeMembers]

/-- The thumbprint of the key that a message embeds is that of its signer's key. -/
theorem thumbprint_of_embeddedKey {signer : Signer} (h : signer.account = none)
    (url nonce : String) (payload : Option Bytes) :
    (Jws.embeddedKey? (signer.sign url nonce payload).write).bind thumbprintOf? =
      some (ofKey signer.key).thumbprint := by
  have hreference : signer.reference = .embedded (.ofKey signer.key) := by
    rw [Signer.reference, h]
  have hkey : Jws.embeddedKey? (signer.sign url nonce payload).write =
      some (ofKey signer.key).value := by
    simp [Jws.embeddedKey?, Json.parse?, Jws.decode_write, Jws.decode_header, Signer.sign,
      Jws.sign, Jws.protectedText, hreference, Jws.referenceValue, Value.member?, Value.text?,
      List.lookup_cons, Except.toOption]
  rw [hkey]
  exact thumbprintOf?_value _

end Jwk

end AcmeClient
