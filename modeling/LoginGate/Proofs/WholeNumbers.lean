/-
# Whole numbers are written in full

A natural number below 2^53 is a number of the format itself, so it is not rounded
(`ofNat_of_lt`), and its text without an exponent is its decimal digits; the same goes for 2^53
(`plain_ofNat`).  The digits come from the search for the fewest that read back as the number.  Half
the distance to a neighbour is less than one, so among the grids of whole steps only those with the
number itself on them are hit (`nearest?_of_around`), and the grid of single steps is one.
-/
import LoginGate.Binary64.Decimal
import Mathlib.Algebra.Order.Ring.Nat

namespace LoginGate.Binary64

/-! ## 1. The number itself -/

/-- **A natural number below 2^53 is not rounded.** -/
theorem ofNat_of_lt {n : Nat} (hpos : 0 < n) (hlt : n < mantissaBound) :
    ∃ k : Nat, ofNat n = .finite false (n * 2 ^ k) (-k) := by
  have hlow : 2 ^ n.log2 ≤ n := Nat.log2_self_le hpos.ne'
  have hlog : n.log2 ≤ 52 := by
    have h53 : n.log2 < 53 := (Nat.log2_lt hpos.ne').mpr hlt
    omega
  obtain ⟨k, hk⟩ := Nat.exists_eq_add_of_le hlog
  have hfloor : floorLog2 n 1 = n.log2 := by
    have htest : 1 * Nat.pow 2 ((n.log2 : Int) - 0).toNat ≤
        n * Nat.pow 2 (-((n.log2 : Int) - 0)).toNat := by
      simpa using hlow
    have hone : ((1 : Nat).log2 : Int) = 0 := by decide
    rw [floorLog2, hone]
    exact (if_pos htest).trans (by omega)
  have he : max (floorLog2 n 1 - 52) minExponent = -(k : Int) := by
    rw [hfloor, minExponent]
    omega
  -- The exponent is not positive, so nothing is divided and nothing is lost.
  have hm : roundQuotient (n * Nat.pow 2 (- -(k : Int)).toNat) (1 * Nat.pow 2 (-(k : Int)).toNat) =
      n * 2 ^ k := by
    simp [roundQuotient, Nat.mod_one]
  have hfull : n * 2 ^ k < mantissaBound := by
    calc n * 2 ^ k < 2 ^ (n.log2 + 1) * 2 ^ k :=
          Nat.mul_lt_mul_of_pos_right Nat.lt_log2_self (Nat.two_pow_pos k)
      _ = mantissaBound := by
          rw [← Nat.pow_add, show n.log2 + 1 + k = 53 by omega]
          rfl
  refine ⟨k, ?_⟩
  rw [ofNat, ofRatio, if_neg hpos.ne', he]
  simp only [hm, if_neg hfull.ne]
  rw [if_neg (by rw [maxExponent]; omega)]

/-! ## 2. The digits that are found -/

/-- The interval is about a natural number, and no other one is in it. -/
structure RoundingInterval.Around (i : RoundingInterval) (n : Nat) : Prop where
  den : 0 < i.den
  value : i.value = n * i.den
  below : i.low < i.value
  above : i.value < i.high
  low : i.value < i.low + i.den
  high : i.high < i.value + i.den

theorem around_roundingInterval {n : Nat} (hpos : 0 < n) (k : Nat) :
    (roundingInterval (n * 2 ^ k) (-k)).Around n := by
  have hup : Nat.pow 2 (-(k : Int) - 2).toNat = 1 := by
    rw [show (-(k : Int) - 2).toNat = 0 by omega]
  have hden : Nat.pow 2 (2 - -(k : Int)).toNat = 4 * 2 ^ k := by
    rw [show (2 - -(k : Int)).toNat = 2 + k by omega]
    exact Nat.pow_add (2 : Nat) 2 k
  -- In quarters of the last place, the ends are at most two away and the next whole number at
  -- least four.
  have hmantissa : 0 < n * 2 ^ k := Nat.mul_pos hpos (Nat.two_pow_pos k)
  have hvalue : n * (4 * 2 ^ k) = 4 * (n * 2 ^ k) := Nat.mul_left_comm n 4 (2 ^ k)
  have hunit : 0 < 2 ^ k := Nat.two_pow_pos k
  constructor <;> simp only [roundingInterval, hup, hden, hvalue] <;> (try split) <;> omega

namespace RoundingInterval

variable {i : RoundingInterval} {n : Nat}

/-- **The number itself is the only whole one in its interval.** -/
theorem contains_iff (h : i.Around n) (digits s : Nat) :
    i.contains digits s = true ↔ digits * 10 ^ s = n := by
  obtain ⟨hden, hvalue, hbelow, habove, hlow, hhigh⟩ := h
  have hx : digits * Nat.pow 10 (s : Int).toNat * i.den = digits * 10 ^ s * i.den := by
    rw [Int.toNat_natCast]
    rfl
  have hunit : Nat.pow 10 (-(s : Int)).toNat = 1 := by
    rw [show (-(s : Int)).toNat = 0 by omega]
  rw [contains, hx, hunit, Nat.mul_one, Nat.mul_one]
  generalize digits * 10 ^ s = d
  constructor
  · intro hin
    have hclosed : i.low ≤ d * i.den ∧ d * i.den ≤ i.high := by
      split at hin <;> simp only [Bool.and_eq_true, decide_eq_true_eq] at hin <;> omega
    rcases Nat.lt_trichotomy d n with hd | hd | hd
    · have hstep : (d + 1) * i.den ≤ n * i.den := Nat.mul_le_mul_right _ hd
      rw [Nat.add_mul] at hstep
      omega
    · exact hd
    · have hstep : (n + 1) * i.den ≤ d * i.den := Nat.mul_le_mul_right _ hd
      rw [Nat.add_mul] at hstep
      omega
  · rintro rfl
    split <;> simp only [Bool.and_eq_true, decide_eq_true_eq] <;> omega

/-- **A grid of whole steps is hit if the number is on it.** -/
theorem nearest?_of_around (h : i.Around n) (s : Nat) :
    i.nearest? s = if 10 ^ s ∣ n then some (n / 10 ^ s) else none := by
  have hnum : i.value * Nat.pow 10 (-(s : Int)).toNat = i.den * n := by
    rw [show (-(s : Int)).toNat = 0 by omega, h.value, Nat.mul_comm i.den]
    exact Nat.mul_one _
  have hden : i.den * Nat.pow 10 (s : Int).toNat = i.den * 10 ^ s := by
    rw [Int.toNat_natCast]
    rfl
  rw [nearest?, hnum, hden, Nat.mul_div_mul_left n _ h.den, Nat.mul_mod_mul_left]
  by_cases hdvd : 10 ^ s ∣ n
  · have hhit : i.contains (n / 10 ^ s) s = true :=
      (contains_iff h _ s).mpr (Nat.div_mul_cancel hdvd)
    have hfirst : 2 * (i.den * (n % 10 ^ s)) < i.den * 10 ^ s := by
      rw [Nat.mod_eq_zero_of_dvd hdvd, Nat.mul_zero, Nat.mul_zero]
      exact Nat.mul_pos h.den (Nat.pow_pos (by decide))
    simp only [hfirst, decide_true, Bool.true_or, if_true, hhit, if_pos hdvd]
  · have hmiss (digits : Nat) : i.contains digits s = false :=
      Bool.eq_false_iff.mpr fun hin => hdvd ⟨digits, by
        rw [← (contains_iff h digits s).mp hin, Nat.mul_comm]⟩
    simp only [hmiss, Bool.false_eq_true, if_false, if_neg hdvd]

/-- The search comes to an end with the number, at the latest on the grid of single steps. -/
theorem search_of_around (h : i.Around n) {magnitude count fuel : Nat} (hcount : count ≤ magnitude)
    (hfuel : magnitude - count < fuel) :
    ∃ digits s : Nat, i.search magnitude count fuel = (digits, (s : Int)) ∧ digits * 10 ^ s = n := by
  induction fuel generalizing count with
  | zero => omega
  | succ fuel ih =>
    have hscale : (magnitude : Int) - count = (magnitude - count : Nat) := by omega
    rw [search, hscale, nearest?_of_around h]
    split
    · rename_i digits hfound
      obtain ⟨hdvd, hdigits⟩ := Option.ite_none_right_eq_some.mp hfound
      cases hdigits
      exact ⟨_, _, rfl, Nat.div_mul_cancel hdvd⟩
    · rename_i hnone
      have hstep : count ≠ magnitude := by
        rintro rfl
        simp at hnone
      exact ih (by omega) (by omega)

end RoundingInterval

/-- Zeros that are taken off the digits are put into the scale. -/
theorem stripZeros_spec (digits s fuel : Nat) :
    ∃ digits' s' : Nat, stripZeros digits s fuel = (digits', (s' : Int)) ∧
      digits' * 10 ^ s' = digits * 10 ^ s := by
  induction fuel generalizing digits s with
  | zero => exact ⟨digits, s, rfl, rfl⟩
  | succ fuel ih =>
    rw [stripZeros]
    split
    · rename_i hzero
      simp only [Bool.and_eq_true, decide_eq_true_eq] at hzero
      obtain ⟨digits', s', hstrip, hvalue⟩ := ih (digits / 10) (s + 1)
      refine ⟨digits', s', hstrip, ?_⟩
      rw [hvalue, Nat.pow_succ, Nat.mul_comm (10 ^ s), ← Nat.mul_assoc,
        Nat.div_mul_cancel (Nat.dvd_of_mod_eq_zero hzero.1)]
    · exact ⟨digits, s, rfl, rfl⟩

theorem digitCount_le {n p : Nat} (hp : 0 < p) : digitCount n ≤ p ↔ n < 10 ^ p :=
  Nat.length_toDigits_le_iff (by decide) hp

/-- **The shortest digits of a whole number** are its own, without the zeros behind them. -/
theorem shortest_of_lt {n : Nat} (hpos : 0 < n) (hlt : n < mantissaBound) (k : Nat) :
    ∃ digits s : Nat, shortest (n * 2 ^ k) (-k) = (digits, (s : Int)) ∧ digits * 10 ^ s = n := by
  have haround := around_roundingInterval hpos k
  have hmagnitude : decimalMagnitude (roundingInterval (n * 2 ^ k) (-k)).value
      (roundingInterval (n * 2 ^ k) (-k)).den = (digitCount n : Int) := by
    rw [decimalMagnitude, haround.value, if_pos (Nat.le_mul_of_pos_left _ hpos),
      Nat.mul_div_cancel _ haround.den]
  -- The fuel suffices: the grid of single steps comes after sixteen others at the latest.
  have hcount : 1 ≤ digitCount n := Nat.length_toDigits_pos
  have hdigits : digitCount n ≤ 16 :=
    (digitCount_le (by decide)).mpr (Nat.lt_trans hlt (by decide))
  obtain ⟨digits, s, hsearch, hvalue⟩ :=
    RoundingInterval.search_of_around haround hcount (show digitCount n - 1 < 18 by omega)
  obtain ⟨digits', s', hstrip, hvalue'⟩ := stripZeros_spec digits s 20
  refine ⟨digits', s', ?_, hvalue'.trans hvalue⟩
  rw [shortest]
  simp only [hmagnitude, hsearch, hstrip]

/-! ## 3. Their layout -/

theorem natText_mul_ten {n : Nat} (h : 0 < n) : natText (n * 10) = natText n ++ ['0'] := by
  rw [natText, Nat.toDigits_of_base_le (by decide) (by omega), Nat.mul_div_cancel _ (by decide),
    Nat.mul_mod_left]
  rfl

/-- A scale that is not negative is written in zeros. -/
theorem natText_mul_pow {n : Nat} (h : 0 < n) (s : Nat) :
    natText (n * 10 ^ s) = natText n ++ List.replicate s '0' := by
  induction s with
  | zero => simp
  | succ s ih =>
    rw [Nat.pow_succ, ← Nat.mul_assoc, natText_mul_ten (Nat.mul_pos h (Nat.pow_pos (by decide))),
      ih, List.append_assoc, List.replicate_succ']

theorem plain_ofNat_of_lt {n : Nat} (hpos : 0 < n) (h : n < mantissaBound) :
    (ofNat n).plain = toString n := by
  obtain ⟨k, hfinite⟩ := ofNat_of_lt hpos h
  obtain ⟨digits, s, hshortest, hvalue⟩ := shortest_of_lt hpos h k
  have hdigits : 0 < digits := Nat.pos_of_ne_zero (by rintro rfl; omega)
  have htext : natText n = natText digits ++ List.replicate s '0' := by
    rw [← hvalue, natText_mul_pow hdigits]
  have hcount : digitCount n = digitCount digits + s := by
    have hlength := congrArg List.length htext
    simpa [natText, digitCount] using hlength
  have hbound : digitCount n ≤ 16 :=
    (digitCount_le (by decide)).mpr (Nat.lt_trans h (by decide))
  have hleast : plainStyle.least ≤ (s : Int) + digitCount digits - 1 := by
    change -400 ≤ (s : Int) + digitCount digits - 1
    omega
  have hgreatest : (s : Int) + digitCount digits - 1 ≤ plainStyle.greatest := by
    change (s : Int) + digitCount digits - 1 ≤ 400
    omega
  have hmantissa : n * 2 ^ k ≠ 0 := (Nat.mul_pos hpos (Nat.two_pow_pos k)).ne'
  have hwrite : plainStyle.write (n * 2 ^ k) (-k) = natText n := by
    rw [DecimalStyle.write, if_neg hmantissa, hshortest]
    simp only [hleast, hgreatest, decide_true, Bool.and_self, if_true]
    rw [positional, if_pos (Int.natCast_nonneg s), Int.toNat_natCast, ← htext]
    exact List.append_nil _
  rw [hfinite, plain, hwrite]
  rfl

/-- **A whole number is written in full** up to 2^53. -/
theorem plain_ofNat {n : Nat} (h : n ≤ mantissaBound) : (ofNat n).plain = toString n := by
  rcases Nat.eq_zero_or_pos n with rfl | hpos
  · decide
  rcases Nat.lt_or_eq_of_le h with hlt | rfl
  · exact plain_ofNat_of_lt hpos hlt
  · decide +kernel

end LoginGate.Binary64
