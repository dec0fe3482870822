/-!
# Octets and UTF-8

Texts travel as octets. `encode` gives the octets of a text and `decode?` reads well-formed
octets back; `decodeLossy` reads any octets, with one replacement character for each maximal
ill-formed piece.
-/

namespace AcmeClient

/-- A finite sequence of octets. -/
abbrev Bytes := List UInt8

namespace Utf8

/-- The octets of a text. -/
def encode (s : String) : Bytes := s.toUTF8.data.toList

/-- The text of well-formed octets. -/
def decode? (b : Bytes) : Option String := String.fromUTF8? ⟨b.toArray⟩

/-- Reading written octets gives the text back. -/
@[simp] theorem decode?_encode (s : String) : decode? (encode s) = some s := by
  simp only [decode?, encode, Array.toArray_toList, String.fromUTF8?]
  exact dif_pos s.isValidUTF8

/-- A text is determined by its octets. -/
theorem encode_injective {s t : String} (h : encode s = encode t) : s = t := by
  have := congrArg decode? h
  simpa using this

/-- Only well-formed octets are read, and they are those of the text. -/
theorem encode_of_decode? {b : Bytes} {s : String} (h : decode? b = some s) : encode s = b := by
  unfold decode? String.fromUTF8? at h
  split at h
  · cases h; simp [encode, String.fromUTF8, String.toUTF8]
  · cases h

/-- A sequence that has begun: how many octets are owed, the bounds of the next one, and the
value gathered so far. -/
structure Pending where
  owed : Nat
  least : UInt8
  greatest : UInt8
  value : Nat

/-- The character that stands for ill-formed octets. -/
def replacement : Char := '\uFFFD'

/-- The effect of an octet between characters: a character, the start of a longer sequence, or
a replacement. -/
def first (b : UInt8) : Char ⊕ Pending :=
  let v := b.toNat
  if b < 0x80 then .inl (Char.ofNat v)
  else if b < 0xC2 then .inl replacement
  else if b < 0xE0 then .inr ⟨1, 0x80, 0xBF, v - 0xC0⟩
  else if b = 0xE0 then .inr ⟨2, 0xA0, 0xBF, 0⟩
  else if b = 0xED then .inr ⟨2, 0x80, 0x9F, v - 0xE0⟩
  else if b < 0xF0 then .inr ⟨2, 0x80, 0xBF, v - 0xE0⟩
  else if b = 0xF0 then .inr ⟨3, 0x90, 0xBF, 0⟩
  else if b < 0xF4 then .inr ⟨3, 0x80, 0xBF, v - 0xF0⟩
  else if b = 0xF4 then .inr ⟨3, 0x80, 0x8F, v - 0xF0⟩
  else .inl replacement

/-- Reads octets after a possible unfinished sequence. -/
def decodeFrom : Option Pending → Bytes → List Char
  | none, [] => []
  | some _, [] => [replacement]
  | none, b :: r =>
    match first b with
    | .inl c => c :: decodeFrom none r
    | .inr p => decodeFrom (some p) r
  | some p, b :: r =>
    if p.least ≤ b ∧ b ≤ p.greatest then
      let value := p.value * 64 + (b.toNat - 0x80)
      if p.owed = 1 then Char.ofNat value :: decodeFrom none r
      else decodeFrom (some ⟨p.owed - 1, 0x80, 0xBF, value⟩) r
    else
      match first b with
      | .inl c => replacement :: c :: decodeFrom none r
      | .inr q => replacement :: decodeFrom (some q) r

/-- The text of any octets. -/
def decodeLossy (b : Bytes) : String := .ofList (decodeFrom none b)

end Utf8

/-- The octets of an ASCII text given as characters. -/
def Bytes.ofChars (cs : List Char) : Bytes := Utf8.encode (.ofList cs)

end AcmeClient
