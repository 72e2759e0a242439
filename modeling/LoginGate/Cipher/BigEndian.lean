/-
# Big-endian bytes

Natural numbers as bytes with the most significant byte first: `ofBytes` reads any number of bytes
and `toBytes` writes a fixed number of them, dropping what does not fit.
-/

namespace LoginGate.Cipher.BigEndian

/-- The number that bytes stand for. -/
def ofBytes (bs : List UInt8) : Nat :=
  bs.foldl (fun n b => 256 * n + b.toNat) 0

/-- The last `width` bytes of a number. -/
def toBytes : Nat → Nat → List UInt8
  | 0, _ => []
  | width + 1, n => toBytes width (n / 256) ++ [UInt8.ofNat n]

@[simp] theorem length_toBytes (width n : Nat) : (toBytes width n).length = width := by
  induction width generalizing n with
  | zero => rfl
  | succ width ih => simp [toBytes, ih]

end LoginGate.Cipher.BigEndian
