import AcmeClient.Json.Value

/-!
# Strings in JSON text

A string is written octet by octet, each of which is read back by itself. So a reader finds the
string again, whatever characters it has and whatever comes after it.
-/

namespace AcmeClient.Json

namespace Reader

/-- A step that succeeds is followed by the next one. -/
theorem bind_of_eq_ok {x : Reader α} {f : α → Reader β} {s t : Bytes} {a : α}
    (h : x s = .ok (a, t)) : (x >>= f) s = f a t := by
  change (x s >>= fun r => f r.1 r.2) = f a t
  rw [h]
  rfl

/-- What is no blank is seen. -/
theorem peek_cons {b : UInt8} (h : isBlank b = false) (rest : Bytes) :
    peek (b :: rest) = .ok (some b, b :: rest) := by
  simp [peek, h]

/-- The next octet is passed. -/
theorem advance_cons (b : UInt8) (rest : Bytes) : advance (b :: rest) = .ok ((), rest) := rfl

end Reader

open Reader

/-- The digits of a control's escape give its number, which is that of the control. -/
theorem escapeDigit_control : ∀ n < 0x20,
    hexValue? (escapeDigit (n / 16)) = some (n / 16) ∧
    hexValue? (escapeDigit (n % 16)) = some (n % 16) ∧
    charOctets n = [UInt8.ofNat n] := by
  decide

/-- The escape of a control is read as the control. -/
theorem numberEscape_control {b : UInt8} (hb : b < 0x20) (rest : Bytes) :
    numberEscape (0x30 :: 0x30 :: escapeDigit (b.toNat / 16) :: escapeDigit (b.toNat % 16) ::
      rest) = .ok ([b], rest) := by
  have hlt : b.toNat < 0x20 := UInt8.lt_iff_toNat_lt.mp hb
  obtain ⟨hhigh, hlow, hchar⟩ := escapeDigit_control b.toNat hlt
  have hzero : hexValue? 0x30 = some 0 := by decide
  have hdigits : fourDigits (0x30 :: 0x30 :: escapeDigit (b.toNat / 16) ::
      escapeDigit (b.toNat % 16) :: rest) = .ok (b.toNat, rest) := by
    simp only [fourDigits, hzero, hhigh, hlow]
    rw [show ((0 * 16 + 0) * 16 + b.toNat / 16) * 16 + b.toNat % 16 = b.toNat by omega]
  unfold numberEscape
  rw [hdigits]
  simp only [bind, Except.bind, pure, Except.pure]
  rw [if_neg (by omega), if_pos (by omega), hchar, UInt8.ofNat_toNat]

/-- What is written for an octet is read as that octet. -/
theorem stringFrom_escapeOctet (b : UInt8) (steps : Nat) (rest : Bytes) :
    stringFrom (steps + 1) (escapeOctet b ++ rest) = (do
      let (more, rest) ← stringFrom steps rest
      .ok (b :: more, rest)) := by
  unfold escapeOctet
  repeat' split
  -- short escapes are read by looking them up
  any_goals
    subst b
    rfl
  · rename_i hcontrol
    change (do
      let (octets, rest) ← numberEscape (0x30 :: 0x30 :: escapeDigit (b.toNat / 16) ::
        escapeDigit (b.toNat % 16) :: rest)
      let (more, rest) ← stringFrom steps rest
      .ok (octets ++ more, rest)) = _
    rw [numberEscape_control hcontrol]
    rfl
  · rename_i hquote hbackslash _ _ _ _ _ hcontrol
    simp only [List.singleton_append, stringFrom, if_neg hquote, if_neg hbackslash,
      if_neg hcontrol]

/-- What is written piece by piece is no shorter than the pieces are many. -/
theorem length_le_length_flatMap {f : α → List β} (h : ∀ x, 0 < (f x).length) (l : List α) :
    l.length ≤ (l.flatMap f).length := by
  induction l with
  | nil => exact Nat.zero_le _
  | cons x l ih =>
    have hx := h x
    rw [List.flatMap_cons, List.length_append, List.length_cons]
    omega

/-- Something is written for every octet. -/
theorem length_escapeOctet_pos (b : UInt8) : 0 < (escapeOctet b).length := by
  unfold escapeOctet
  repeat' split
  all_goals exact Nat.succ_pos _

/-- What is written for octets is read up to the closing quote. -/
theorem stringFrom_flatMap (octets rest : Bytes) {steps : Nat} (h : octets.length < steps) :
    stringFrom steps (octets.flatMap escapeOctet ++ octet '"' :: rest) = .ok (octets, rest) := by
  induction octets generalizing steps with
  | nil =>
    obtain ⟨steps, rfl⟩ := Nat.exists_eq_add_one.mpr h
    rfl
  | cons b octets ih =>
    obtain ⟨steps, rfl⟩ := Nat.exists_eq_add_one.mpr (Nat.zero_lt_of_lt h)
    rw [List.flatMap_cons, List.append_assoc, stringFrom_escapeOctet,
      ih (Nat.lt_of_succ_lt_succ h)]
    rfl

/-- A string is read back after its opening quote. -/
theorem text_flatMap (s : String) (rest : Bytes) :
    text ((Utf8.encode s).flatMap escapeOctet ++ octet '"' :: rest) = .ok (s, rest) := by
  have hlength := length_le_length_flatMap length_escapeOctet_pos (Utf8.encode s)
  unfold text
  rw [stringFrom_flatMap]
  · simp only [bind, Except.bind]
    rw [Utf8.decode?_encode]
  · rw [List.length_append]
    omega

/-- The text of a string is its characters between quotes. -/
theorem writeText_append (s : String) (rest : Bytes) :
    writeText s ++ rest =
      octet '"' :: ((Utf8.encode s).flatMap escapeOctet ++ octet '"' :: rest) := by
  simp [writeText]

/-- A string without anything to escape stands between quotes as it is. -/
theorem writeText_of_plain {s : String} (h : ∀ b ∈ Utf8.encode s, escapeOctet b = [b]) :
    writeText s = octet '"' :: Utf8.encode s ++ [octet '"'] := by
  have hplain (octets : Bytes) (h : ∀ b ∈ octets, escapeOctet b = [b]) :
      octets.flatMap escapeOctet = octets := by
    induction octets with
    | nil => rfl
    | cons b octets ih =>
      obtain ⟨hb, hoctets⟩ := List.forall_mem_cons.mp h
      rw [List.flatMap_cons, hb, ih hoctets, List.singleton_append]
  rw [writeText, hplain _ h]

end AcmeClient.Json
