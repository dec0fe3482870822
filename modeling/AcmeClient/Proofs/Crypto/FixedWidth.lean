import AcmeClient.Crypto.SigningKey
import Mathlib.Algebra.Group.Nat.Defs

/-!
# Numbers of fixed width

A number that fits is found again in its octets, however many of them are zero. The coordinates of
public keys and the numbers of signatures fit into 32 octets.
-/

namespace AcmeClient

namespace Octets

/-- Octets that follow a number make it greater by their weight. -/
theorem foldl_fixed (width n start : Nat) :
    (fixed width n).foldl (fun m x => m * 256 + x.toNat) start =
      start * 256 ^ width + n % 256 ^ width := by
  induction width generalizing start with
  | zero => simp [fixed, Nat.mod_one]
  | succ width ih =>
    rw [fixed, List.foldl_cons, ih]
    have hdigit : (UInt8.ofNat (n / Nat.pow 256 width)).toNat = n / 256 ^ width % 256 :=
      UInt8.toNat_ofNat'
    have hsplit : n % 256 ^ (width + 1) =
        n / 256 ^ width % 256 * 256 ^ width + n % 256 ^ width := by
      rw [Nat.pow_succ, Nat.mod_mul, Nat.mul_comm (256 ^ width), Nat.add_comm]
    rw [hdigit, hsplit, Nat.add_mul, Nat.pow_succ, Nat.mul_assoc, Nat.mul_comm 256, Nat.add_assoc]

/-- A number that fits is found again in its octets. -/
theorem toNat_fixed {width n : Nat} (h : n < 256 ^ width) : (fixed width n).toNat = n := by
  rw [Bytes.toNat, foldl_fixed, Nat.zero_mul, Nat.zero_add, Nat.mod_eq_of_lt h]

end Octets

namespace P256

/-- The order of the field fits into 32 octets. -/
theorem p_lt : p < 256 ^ 32 := by decide

/-- The order of the generator fits into 32 octets. -/
theorem n_lt : n < 256 ^ 32 := by decide

/-- The coordinates of a multiple are in the field. -/
theorem multiply_lt (k : Nat) (q : Point) : (multiply k q).x < p ∧ (multiply k q).y < p :=
  ⟨Nat.mod_lt _ (by decide), Nat.mod_lt _ (by decide)⟩

end P256

/-- The order of the generator leaves room for a key. -/
theorem P256.one_lt_n : 1 < P256.n := by decide

/-- The smallest key. -/
def SigningKey.smallest : SigningKey := ⟨1, Nat.one_pos, P256.one_lt_n⟩

/-- The coordinates of a public key are found again in their octets. -/
theorem SigningKey.toNat_publicPoint (key : SigningKey) :
    (Octets.fixed 32 key.publicPoint.x).toNat = key.publicPoint.x ∧
      (Octets.fixed 32 key.publicPoint.y).toNat = key.publicPoint.y := by
  obtain ⟨hx, hy⟩ := P256.multiply_lt key.scalar P256.generator
  exact ⟨Octets.toNat_fixed (Nat.lt_trans hx P256.p_lt),
    Octets.toNat_fixed (Nat.lt_trans hy P256.p_lt)⟩

/-- Both numbers of a signature are below the order of the generator. -/
theorem SigningKey.sign_lt (key : SigningKey) (message : Bytes) :
    (key.sign message).r < P256.n ∧ (key.sign message).s < P256.n :=
  ⟨Nat.mod_lt _ (by decide), Nat.mod_lt _ (by decide)⟩

/-- Both numbers of a signature are found again in its octets. -/
theorem SigningKey.toNat_octets_sign (key : SigningKey) (message : Bytes) :
    Bytes.toNat ((key.sign message).octets.take 32) = (key.sign message).r ∧
      Bytes.toNat ((key.sign message).octets.drop 32) = (key.sign message).s := by
  obtain ⟨hr, hs⟩ := key.sign_lt message
  have hlength := Octets.length_fixed 32 (key.sign message).r
  rw [Signature.octets, List.take_left' hlength, List.drop_left' hlength]
  exact ⟨Octets.toNat_fixed (Nat.lt_trans hr P256.n_lt),
    Octets.toNat_fixed (Nat.lt_trans hs P256.n_lt)⟩

end AcmeClient
