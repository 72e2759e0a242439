/-
# Numerals written as integers

A numeral without point and exponent stands for its integer as long as that fits 64 bits, and a
negative one below them for the negation of what its digits are rounded to.  Beyond 64 bits the number
is computed from the leading digits; it then reaches 2^60, whatever the rounding did
(`number?_integer`).
-/
import LoginGate.Json.Reader
import LoginGate.Proofs.Binary64
import LoginGate.Proofs.Json.Tree
import Mathlib.Tactic.NormNum

namespace LoginGate.Json

namespace Numeral

/-- The numeral has neither point nor exponent. -/
def isInteger (n : Numeral) : Bool := n.fraction.isEmpty && n.exponent.isNone

/-- The integer that such a numeral is written for. -/
def toInt (n : Numeral) : Int :=
  if n.negative then -(Binary64.digitsValue n.whole : Int) else Binary64.digitsValue n.whole

end Numeral

/-! ## 1. The significand -/

/-- Digits are taken to the last one, or until one more may not fit 64 bits. -/
theorem takeSignificant_spec {ds : List Nat} (hds : ∀ d ∈ ds, d < 10) (significand taken : Nat) :
    (takeSignificant significand taken ds).2.2 = 0 ∧
        (takeSignificant significand taken ds).1 =
          ds.foldl (fun n d => 10 * n + d) significand ∨
      0 < (takeSignificant significand taken ds).2.2 ∧
        Word.maxNat64 < (takeSignificant significand taken ds).1 * 10 + 9 := by
  induction ds generalizing significand taken with
  | nil => exact .inl ⟨rfl, rfl⟩
  | cons d ds ih =>
    have hd : d < 10 := hds d List.mem_cons_self
    rw [takeSignificant]
    split
    · rename_i hfull
      refine .inr ⟨Nat.succ_pos _, ?_⟩
      omega
    · rw [List.foldl_cons, Nat.mul_comm 10 significand]
      exact ih (fun e he => hds e (List.mem_cons_of_mem d he)) _ _

/-! ## 2. Powers of ten -/

theorem reaches_ofNat {n k : Nat} (h : 2 ^ k ≤ n) : (Binary64.ofNat n).Reaches k := by
  refine Binary64.ofRatio_reaches false Nat.one_pos (by omega) ?_
  rw [Nat.cast_one, div_one]
  exact_mod_cast h

/-- A significand that is scaled up keeps the powers of two that it reaches. -/
theorem reaches_of_scale? {significand k dropped : Nat} {x : Binary64} (hs : 2 ^ k ≤ significand)
    (h : scale? significand dropped = some x) : x.Reaches k := by
  have hone : (Binary64.ofNat (Nat.pow 10 dropped)).Reaches (0 : Nat) :=
    reaches_ofNat (Nat.pow_pos (by decide))
  have hmul : ((Binary64.ofNat significand).mul (Binary64.ofNat (Nat.pow 10 dropped))).Reaches
      (k + (0 : Nat)) := Binary64.mul_reaches (by omega) (reaches_ofNat hs) hone
  rw [Nat.cast_zero, add_zero] at hmul
  rw [scale?, Binary64.isZero_of_reaches (reaches_ofNat hs)] at h
  dsimp only at h
  rw [if_neg Bool.false_ne_true, if_pos (Int.natCast_nonneg dropped), Int.toNat_natCast] at h
  split at h
  · simp at h
  · split at h
    · cases h
      exact hmul
    · simp at h

/-- Powers of ten beyond the range are refused for every significand but zero. -/
theorem scale?_beyond {significand : Nat} {exponent : Int} (hs : significand ≠ 0)
    (he : (maxScaleStep : Int) < exponent) : scale? significand exponent = none := by
  have hzero : (Binary64.ofNat significand).isZero = false :=
    Binary64.isZero_of_reaches (@reaches_ofNat significand 0 (Nat.one_le_iff_ne_zero.mpr hs))
  have hnonneg : 0 ≤ exponent := by omega
  simp [scale?, hzero, hnonneg, he]

/-! ## 3. The number -/

/-- **The number of a numeral written as an integer**: the integer itself, the negation of its rounded
digits, or a number of at least 2^60. -/
theorem number?_integer {n : Numeral} {x : Number} (hn : n.isInteger = true) (hd : n.IsDecimal)
    (h : n.number? = some x) :
    x = .integer n.toInt ∨
      n.negative = true ∧ x = .float (Binary64.ofNat (Binary64.digitsValue n.whole)).neg ∨
      ∃ y, x = .float y ∧ y.Reaches 60 := by
  obtain ⟨negative, whole, fraction, exponent⟩ := n
  simp only [Numeral.isInteger, Bool.and_eq_true, List.isEmpty_iff, Option.isNone_iff_eq_none] at hn
  obtain ⟨rfl, rfl⟩ := hn
  have hspec := takeSignificant_spec hd 0 0
  rw [Numeral.number?] at h
  dsimp only at h
  generalize takeSignificant 0 0 whole = out at h hspec
  obtain ⟨significand, taken, dropped⟩ := out
  dsimp only [takeSignificant] at h hspec
  rcases hspec with ⟨rfl, hvalue⟩ | ⟨hdropped, hfull⟩
  · obtain rfl : significand = Binary64.digitsValue whole := hvalue
    cases negative with
    | false =>
      obtain rfl : Number.integer (Binary64.digitsValue whole) = x := by simpa using h
      exact .inl rfl
    | true =>
      simp only [List.isEmpty_nil, Bool.true_and, decide_true, if_true, Bool.not_true,
        Bool.false_eq_true, if_false] at h
      split at h
      · cases h
        exact .inr (.inl ⟨rfl, rfl⟩)
      · cases h
        exact .inl rfl
  · have hne : dropped ≠ 0 := hdropped.ne'
    simp only [hne, decide_false, Bool.and_false, Bool.false_eq_true, if_false, Nat.cast_zero,
      sub_zero] at h
    obtain ⟨y, hy, rfl⟩ := Option.map_eq_some_iff.mp h
    have hreaches : y.Reaches 60 := by
      refine reaches_of_scale? ?_ hy
      rw [Word.maxNat64] at hfull
      norm_num
      omega
    refine .inr (.inr ⟨_, rfl, ?_⟩)
    cases negative with
    | false => exact hreaches
    | true => exact Binary64.neg_reaches hreaches

/-- No numeral stands for an integer below those of 64 bits. -/
theorem minInt64_le_of_number? {n : Numeral} {i : Int} (h : n.number? = some (.integer i)) :
    Word.minInt64 ≤ i := by
  rw [Numeral.number?] at h
  dsimp only at h
  split at h
  · split at h
    · split at h
      · cases h
        rw [Word.minInt64]
        omega
      · split at h
        · cases h
        · rename_i hword
          cases h
          simp only [Bool.or_eq_true, decide_eq_true_eq, Bool.not_eq_true', not_or,
            Bool.not_eq_false] at hword
          exact (Word.isInt64_iff.mp hword.2).1
    · obtain ⟨x, -, hx⟩ := Option.map_eq_some_iff.mp h
      cases hx
  · split at h
    · split at h <;> cases h
    · obtain ⟨x, -, hx⟩ := Option.map_eq_some_iff.mp h
      cases hx

end LoginGate.Json
