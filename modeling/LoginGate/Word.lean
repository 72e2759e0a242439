/-
# Ranges of machine words

Numbers that are stored, written or read in words have the range of the word: natural numbers of 32
and 64 bits, and integers of 64 bits with a sign.  `wrap` brings an integer into the last of these
ranges (`isInt64_wrap`) and leaves one that is in it as it is (`wrap_of_isInt64`).
-/

namespace LoginGate.Word

/-! ## 1. Bounds -/

/-- The greatest natural number of 32 bits. -/
def maxNat32 : Nat := 4294967295

/-- The greatest natural number of 64 bits. -/
def maxNat64 : Nat := 18446744073709551615

/-- The least integer of 64 bits. -/
def minInt64 : Int := -9223372036854775808

/-- The greatest integer of 64 bits. -/
def maxInt64 : Int := 9223372036854775807

/-- Whether an integer fits 64 bits. -/
def isInt64 (n : Int) : Bool := minInt64 ≤ n && n ≤ maxInt64

/-! ## 2. Wrapping -/

/-- The integer of 64 bits that differs by a multiple of the number of words. -/
def wrap (n : Int) : Int := n.bmod 18446744073709551616

theorem isInt64_iff {n : Int} : isInt64 n = true ↔ minInt64 ≤ n ∧ n ≤ maxInt64 := by
  simp [isInt64]

theorem isInt64_wrap (n : Int) : isInt64 (wrap n) = true := by
  have low := @Int.le_bmod n 18446744073709551616 (by decide)
  have high := @Int.bmod_lt n 18446744073709551616 (by decide)
  rw [isInt64_iff, minInt64, maxInt64, wrap]
  omega

theorem wrap_of_isInt64 {n : Int} (h : isInt64 n = true) : wrap n = n := by
  rw [isInt64_iff, minInt64, maxInt64] at h
  exact Int.bmod_eq_of_le (by omega) (by omega)

end LoginGate.Word
