/-!
# Bytes

Sequences of bytes, and numbers written in them with the highest byte first.
-/

namespace Gatehouse.Crypto

/-- A sequence of bytes. -/
abbrev Bytes := List UInt8

namespace Bytes

/-- The number that bytes write. -/
def toNat (bytes : Bytes) : Nat := bytes.foldl (fun n b => n * 0x100 + b.toNat) 0

/-- A number written in `count` bytes; what does not fit is dropped. -/
def ofNat : (count : Nat) → Nat → Bytes
  | 0, _ => []
  | count + 1, n => (n >>> (8 * count)).toUInt8 :: ofNat count n

/-- The size of a written number. -/
@[simp] theorem length_ofNat (count n : Nat) : (ofNat count n).length = count := by
  induction count with
  | zero => rfl
  | succ count ih => simp [ofNat, ih]

end Bytes

end Gatehouse.Crypto
