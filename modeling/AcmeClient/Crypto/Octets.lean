import AcmeClient.Text.Utf8

/-!
# Numbers as octets

A number is written with its most significant octet first, either in a fixed number of octets or
in as few as it needs.
-/

namespace AcmeClient

/-- The number that octets stand for. -/
def Bytes.toNat (b : Bytes) : Nat := b.foldl (fun n x => n * 256 + x.toNat) 0

namespace Octets

/-- The last octets of a number, most significant first. -/
def fixed : Nat → Nat → Bytes
  | 0, _ => []
  | width + 1, n => UInt8.ofNat (n / Nat.pow 256 width) :: fixed width n

/-- The width of the text is the one asked for. -/
@[simp] theorem length_fixed (width n : Nat) : (fixed width n).length = width := by
  induction width with
  | zero => rfl
  | succ width ih => simp [fixed, ih]

/-- The number of octets that a number needs, at least one. -/
def width (n : Nat) : Nat := n.log2 / 8 + 1

/-- The octets of a number, as few as it needs. -/
def minimal (n : Nat) : Bytes := fixed (width n) n

end Octets

end AcmeClient
