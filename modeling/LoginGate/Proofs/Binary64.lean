/-
# Rounding keeps powers of two

Nothing is said here about how near a rounded number is, only that rounding does not lose magnitude: a
ratio that reaches a power of two is rounded to a number that reaches it (`ofRatio_reaches`), for the
power is a number of the format itself.  Products follow (`mul_reaches`), and a number that reaches a
power of two is no integer below it (`isInteger_of_reaches`).
-/
import LoginGate.Binary64.Basic
import Mathlib.Algebra.Order.Field.Power
import Mathlib.Data.Rat.Cast.Order
import Mathlib.Tactic.Ring

namespace LoginGate.Binary64

/-- The magnitude is at least `2 ^ k`. -/
def Reaches (k : ℤ) : Binary64 → Prop
  | .nan => False
  | .infinity _ => True
  | .finite _ m e => (2 : ℚ) ^ k ≤ m * 2 ^ e

/-! ## 1. Ratios -/

/-- A power of two as the quotient of two natural powers, one of which is 1. -/
theorem pow_toNat_div (e : ℤ) :
    ((Nat.pow 2 e.toNat : ℕ) : ℚ) / (Nat.pow 2 (-e).toNat : ℕ) = 2 ^ e := by
  rcases le_total 0 e with h | h
  · obtain ⟨n, rfl⟩ := Int.eq_ofNat_of_zero_le h
    simp
  · obtain ⟨n, hn⟩ := Int.eq_ofNat_of_zero_le (Int.neg_nonneg_of_nonpos h)
    obtain rfl : e = -(n : ℤ) := by omega
    simp

theorem ratio_pos (m : ℕ) (e : ℤ) : 0 < (ratio m e).2 := Nat.pow_pos (by decide)

theorem ratio_eq (m : ℕ) (e : ℤ) : ((ratio m e).1 : ℚ) / (ratio m e).2 = m * 2 ^ e := by
  rw [ratio, ← pow_toNat_div e, Nat.cast_mul, mul_div_assoc]

/-- `floorLog2` is the logarithm of a ratio, rounded down. -/
theorem floorLog2_spec {num den : ℕ} (hn : 0 < num) (hd : 0 < den) :
    (2 : ℚ) ^ floorLog2 num den ≤ num / den ∧ (num : ℚ) / den < 2 ^ (floorLog2 num den + 1) := by
  have hdq : (0 : ℚ) < den := by exact_mod_cast hd
  have hnum : (2 : ℚ) ^ (num.log2 : ℤ) ≤ num ∧ (num : ℚ) < 2 ^ ((num.log2 : ℤ) + 1) := by
    constructor
    · exact_mod_cast Nat.log2_self_le hn.ne'
    · exact_mod_cast @Nat.lt_log2_self num
  have hden : (2 : ℚ) ^ (den.log2 : ℤ) ≤ den ∧ (den : ℚ) < 2 ^ ((den.log2 : ℤ) + 1) := by
    constructor
    · exact_mod_cast Nat.log2_self_le hd.ne'
    · exact_mod_cast @Nat.lt_log2_self den
  generalize hk : (num.log2 : ℤ) - den.log2 = k
  -- The two logarithms fix the ratio up to a factor of two on either side; the test decides.
  have hlow : (2 : ℚ) ^ (k - 1) ≤ num / den := by
    rw [le_div_iff₀ hdq]
    calc (2 : ℚ) ^ (k - 1) * den
        ≤ 2 ^ (k - 1) * 2 ^ ((den.log2 : ℤ) + 1) := by gcongr; exact hden.2.le
      _ = 2 ^ (num.log2 : ℤ) := by rw [← zpow_add₀ two_ne_zero]; congr 1; omega
      _ ≤ num := hnum.1
  have hhigh : (num : ℚ) / den < 2 ^ (k + 1) := by
    rw [div_lt_iff₀ hdq]
    calc (num : ℚ)
        < 2 ^ ((num.log2 : ℤ) + 1) := hnum.2
      _ = 2 ^ (k + 1) * 2 ^ (den.log2 : ℤ) := by rw [← zpow_add₀ two_ne_zero]; congr 1; omega
      _ ≤ 2 ^ (k + 1) * den := by gcongr; exact hden.1
  have htest : den * Nat.pow 2 k.toNat ≤ num * Nat.pow 2 (-k).toNat ↔ (2 : ℚ) ^ k ≤ num / den := by
    have hp : (0 : ℚ) < (Nat.pow 2 (-k).toNat : ℕ) := by
      exact_mod_cast Nat.pow_pos (n := (-k).toNat) (by decide : 0 < 2)
    rw [← pow_toNat_div k, div_le_div_iff₀ hp hdq, mul_comm den]
    exact_mod_cast Iff.rfl
  rw [floorLog2, hk]
  split
  · rename_i h
    exact ⟨htest.mp h, hhigh⟩
  · rename_i h
    rw [sub_add_cancel]
    exact ⟨hlow, lt_of_not_ge fun hc => h (htest.mpr hc)⟩

theorem div_le_roundQuotient (num den : ℕ) : num / den ≤ roundQuotient num den := by
  rw [roundQuotient]
  split
  · exact Nat.le_succ _
  · exact Nat.le_refl _

/-! ## 2. Rounding -/

/-- The mantissa of a ratio of logarithm `f`, scaled to 53 digits, has all of them. -/
theorem leastNormal_le_quotient {num den : ℕ} {f : ℤ} (hd : 0 < den)
    (h : (2 : ℚ) ^ f ≤ num / den) :
    leastNormal ≤ num * Nat.pow 2 (-(f - 52)).toNat / (den * Nat.pow 2 (f - 52).toNat) := by
  have hdq : (0 : ℚ) < den := by exact_mod_cast hd
  have hp : (0 : ℚ) < (Nat.pow 2 (-(f - 52)).toNat : ℕ) := by
    exact_mod_cast Nat.pow_pos (n := (-(f - 52)).toNat) (by decide : 0 < 2)
  have hpow := pow_toNat_div (f - 52)
  rw [div_eq_iff hp.ne'] at hpow
  have hscale : 0 < den * Nat.pow 2 (f - 52).toNat := Nat.mul_pos hd (Nat.pow_pos (by decide))
  rw [Nat.le_div_iff_mul_le hscale]
  have hleast : (leastNormal : ℚ) * 2 ^ (f - 52) = 2 ^ f := by
    rw [show (leastNormal : ℚ) = 2 ^ (52 : ℤ) by norm_num [leastNormal], ← zpow_add₀ two_ne_zero]
    congr 1
    omega
  have hq : (leastNormal : ℚ) * (den * (Nat.pow 2 (f - 52).toNat : ℕ)) ≤
      num * (Nat.pow 2 (-(f - 52)).toNat : ℕ) := by
    calc (leastNormal : ℚ) * (den * (Nat.pow 2 (f - 52).toNat : ℕ))
        = (leastNormal * 2 ^ (f - 52)) * den * (Nat.pow 2 (-(f - 52)).toNat : ℕ) := by
          rw [hpow]; ring
      _ = 2 ^ f * den * (Nat.pow 2 (-(f - 52)).toNat : ℕ) := by rw [hleast]
      _ ≤ num * (Nat.pow 2 (-(f - 52)).toNat : ℕ) := by
          gcongr
          exact (le_div_iff₀ hdq).mp h
  exact_mod_cast hq

/-- **Rounding keeps powers of two**, those of normal numbers at least. -/
theorem ofRatio_reaches {num den : ℕ} {k : ℤ} (s : Bool) (hd : 0 < den) (hk : -1022 ≤ k)
    (h : (2 : ℚ) ^ k ≤ num / den) : (ofRatio s num den).Reaches k := by
  have hdq : (0 : ℚ) < den := by exact_mod_cast hd
  have hn : 0 < num := by
    rw [Nat.pos_iff_ne_zero]
    rintro rfl
    rw [Nat.cast_zero, zero_div] at h
    exact absurd h (not_le.mpr (zpow_pos two_pos k))
  obtain ⟨hlow, hhigh⟩ := floorLog2_spec hn hd
  have hkf : k ≤ floorLog2 num den := by
    have hlt := (zpow_lt_zpow_iff_right₀ one_lt_two).mp (lt_of_le_of_lt h hhigh)
    omega
  have he : max (floorLog2 num den - 52) minExponent = floorLog2 num den - 52 :=
    max_eq_left (by rw [minExponent]; omega)
  rw [ofRatio, if_neg hn.ne', he]
  generalize floorLog2 num den = f at *
  have hm := (leastNormal_le_quotient hd hlow).trans (div_le_roundQuotient _ _)
  dsimp only
  generalize roundQuotient (num * Nat.pow 2 (-(f - 52)).toNat) (den * Nat.pow 2 (f - 52).toNat) = m
    at hm ⊢
  -- The mantissa is at least 2^52 whether or not it was carried over.
  have hfull : ∀ (m : ℕ) (e : ℤ), leastNormal ≤ m → f - 52 ≤ e → (2 : ℚ) ^ k ≤ m * 2 ^ e := by
    intro m e hm he
    have hmq : (2 : ℚ) ^ (52 : ℤ) ≤ m := by
      have : (leastNormal : ℚ) ≤ m := by exact_mod_cast hm
      exact le_trans (by norm_num [leastNormal]) this
    calc (2 : ℚ) ^ k
        ≤ 2 ^ (52 + e) := zpow_le_zpow_right₀ one_le_two (by omega)
      _ = 2 ^ (52 : ℤ) * 2 ^ e := zpow_add₀ two_ne_zero _ _
      _ ≤ m * 2 ^ e := by gcongr
  by_cases hc : m = mantissaBound
  · rw [if_pos hc]
    dsimp only
    split
    · trivial
    · exact hfull _ _ (Nat.le_refl _) (by omega)
  · rw [if_neg hc]
    dsimp only
    split
    · trivial
    · exact hfull _ _ hm (Int.le_refl _)

/-! ## 3. Products, signs and integers -/

theorem mantissa_ne_zero {s : Bool} {m : ℕ} {e k : ℤ} (h : (finite s m e).Reaches k) : m ≠ 0 := by
  rintro rfl
  rw [Reaches, Nat.cast_zero, zero_mul] at h
  exact absurd h (not_le.mpr (zpow_pos two_pos k))

theorem isZero_of_reaches {x : Binary64} {k : ℤ} (h : x.Reaches k) : x.isZero = false := by
  cases x with
  | nan => rfl
  | infinity s => rfl
  | finite s m e => simpa [isZero] using mantissa_ne_zero h

/-- **A product reaches the product of the powers** that its factors reach. -/
theorem mul_reaches {x y : Binary64} {j k : ℤ} (hjk : -1022 ≤ j + k) (hx : x.Reaches j)
    (hy : y.Reaches k) : (x.mul y).Reaches (j + k) := by
  cases x with
  | nan => exact hx.elim
  | infinity s =>
    cases y with
    | nan => exact hy.elim
    | infinity t => trivial
    | finite t n f =>
      rw [mul, if_neg (mantissa_ne_zero hy)]
      trivial
  | finite s m e =>
    cases y with
    | nan => exact hy.elim
    | infinity t =>
      rw [mul, if_neg (mantissa_ne_zero hx)]
      trivial
    | finite t n f =>
      have hvalue : (2 : ℚ) ^ (j + k) ≤ (ratio (m * n) (e + f)).1 / (ratio (m * n) (e + f)).2 := by
        rw [ratio_eq, zpow_add₀ two_ne_zero, zpow_add₀ two_ne_zero, Nat.cast_mul]
        calc (2 : ℚ) ^ j * 2 ^ k
            ≤ (m * 2 ^ e) * (n * 2 ^ f) :=
              mul_le_mul hx hy (zpow_nonneg two_pos.le k) ((zpow_nonneg two_pos.le j).trans hx)
          _ = m * n * (2 ^ e * 2 ^ f) := by ring
      exact ofRatio_reaches (s != t) (ratio_pos (m * n) (e + f)) hjk hvalue

theorem neg_reaches {x : Binary64} {k : ℤ} (h : x.Reaches k) : x.neg.Reaches k := by
  cases x with
  | nan => exact h
  | infinity s => trivial
  | finite s m e => exact h

/-- A number that reaches a power of two is no integer below it. -/
theorem isInteger_of_reaches {x : Binary64} {k n : ℤ} (h : x.Reaches k)
    (hn : |(n : ℚ)| < 2 ^ k) : x.isInteger n = false := by
  cases x with
  | nan => rfl
  | infinity s => rfl
  | finite s m e =>
    have hden : (0 : ℚ) < (ratio m e).2 := by exact_mod_cast ratio_pos m e
    rw [isInteger, beq_eq_false_iff_ne]
    intro heq
    have habs : |(n : ℚ)| * (ratio m e).2 = (ratio m e).1 := by
      have hq : ((if s then -((ratio m e).1 : ℤ) else (ratio m e).1 : ℤ) : ℚ) =
          n * (ratio m e).2 := by exact_mod_cast heq
      have hmul : |(n : ℚ)| * (ratio m e).2 = |(n : ℚ) * (ratio m e).2| := by
        rw [abs_mul, abs_of_pos hden]
      rw [hmul, ← hq]
      cases s <;> simp
    have hval : |(n : ℚ)| = m * 2 ^ e := by
      rw [← ratio_eq, eq_div_iff hden.ne', habs]
    rw [hval] at hn
    exact absurd hn (not_lt.mpr h)

/-- The zeros are the integer 0 and no other. -/
theorem isInteger_zero (s : Bool) (n : ℤ) : (zero s).isInteger n = decide (0 = n) := by
  have hden : ((ratio 0 minExponent).2 : ℤ) ≠ 0 := by
    exact_mod_cast (ratio_pos 0 minExponent).ne'
  have hnum : (ratio 0 minExponent).1 = 0 := by rw [ratio, Nat.zero_mul]
  rw [zero, isInteger]
  dsimp only
  rw [hnum, Int.natCast_zero, Int.neg_zero, ite_self, Bool.eq_iff_iff, beq_iff_eq,
    decide_eq_true_eq, eq_comm, mul_eq_zero, or_iff_left hden, eq_comm]

/-! ## 4. Cutting off -/

theorem truncateTo_zero {low high : ℤ} (hlow : low ≤ 0) (hhigh : 0 ≤ high) (s : Bool) :
    (zero s).truncateTo low high = 0 := by
  have hnum : (ratio 0 minExponent).1 = 0 := by rw [ratio, Nat.zero_mul]
  rw [zero, truncateTo]
  dsimp only
  rw [hnum, Nat.zero_div, Int.natCast_zero, Int.neg_zero, ite_self, min_eq_right hhigh,
    max_eq_right hlow]

theorem isNegative_ofRatio (s : Bool) (num den : ℕ) : (ofRatio s num den).isNegative = s := by
  rw [ofRatio]
  split
  · rfl
  · generalize max (floorLog2 num den - 52) minExponent = e
    dsimp only
    split <;> split <;> rfl

/-- A number that reaches the upper end of a range is clamped to it. -/
theorem truncateTo_of_reaches {x : Binary64} {low high k : ℤ} (hx : x.isNegative = false)
    (h : x.Reaches k) (hrange : low ≤ high) (hhigh : (high : ℚ) ≤ 2 ^ k) :
    x.truncateTo low high = high := by
  cases x with
  | nan => exact h.elim
  | infinity s =>
    obtain rfl : s = false := hx
    rfl
  | finite s m e =>
    obtain rfl : s = false := hx
    have hreached : high ≤ ((ratio m e).1 / (ratio m e).2 : ℕ) := by
      have hden : (0 : ℚ) < (ratio m e).2 := by exact_mod_cast ratio_pos m e
      have hq : (high : ℚ) * (ratio m e).2 ≤ (ratio m e).1 := by
        rw [← le_div_iff₀ hden, ratio_eq]
        exact hhigh.trans h
      rw [Int.natCast_ediv, Int.le_ediv_iff_mul_le (by exact_mod_cast ratio_pos m e)]
      exact_mod_cast hq
    simp only [truncateTo, Bool.false_eq_true, if_false]
    omega

theorem truncateTo_bounds {low high : Int} (hlow : low ≤ 0) (hhigh : 0 ≤ high) (x : Binary64) :
    low ≤ x.truncateTo low high ∧ x.truncateTo low high ≤ high := by
  cases x with
  | nan => exact ⟨hlow, hhigh⟩
  | infinity s => cases s <;> simp only [truncateTo] <;> simp <;> omega
  | finite s m e =>
    simp only [truncateTo]
    omega

end LoginGate.Binary64
