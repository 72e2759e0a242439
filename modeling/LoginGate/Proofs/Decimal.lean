/-
# Decimal digits

The text of a natural number is its decimal digits, the highest first (`natText_eq`).  They are
below ten, have the number as their value (`digitsValue_decimals`), and do not begin with a zero
unless the number is zero (`head?_decimals`).

Zeros in front and a sign are read all the same: every text of an integer is read as the number
nearest to it, and `-0` as the other zero (`parse?_of_integerText`).
-/
import LoginGate.Binary64.Decimal

namespace LoginGate.Binary64

/-! ## 1. Digits of a number -/

/-- The decimal digits of a natural number, the highest first. -/
def decimals (n : Nat) : List Nat :=
  if n < 10 then [n] else decimals (n / 10) ++ [n % 10]
termination_by n
decreasing_by omega

theorem decimals_of_lt {n : Nat} (h : n < 10) : decimals n = [n] := by
  rw [decimals, if_pos h]

/-- **The text of a number** is its digits. -/
theorem natText_eq (n : Nat) : natText n = (decimals n).map Nat.digitChar := by
  rw [natText]
  fun_induction decimals n with
  | case1 n h => rw [Nat.toDigits_of_lt_base h, List.map_singleton]
  | case2 n h ih =>
    rw [Nat.toDigits_of_base_le (by decide) (Nat.le_of_not_lt h), ih, List.map_append,
      List.map_singleton]

theorem decimals_ne_nil (n : Nat) : decimals n ≠ [] := by
  unfold decimals
  split <;> simp

theorem decimals_lt {n d : Nat} (h : d ∈ decimals n) : d < 10 := by
  fun_induction decimals n with
  | case1 n hn =>
    rw [List.mem_singleton.mp h]
    exact hn
  | case2 n hn ih =>
    rcases List.mem_append.mp h with h | h
    · exact ih h
    · rw [List.mem_singleton.mp h]
      exact Nat.mod_lt n (by decide)

theorem digitsValue_decimals (n : Nat) : digitsValue (decimals n) = n := by
  fun_induction decimals n with
  | case1 n h => simp [digitsValue]
  | case2 n h ih =>
    rw [digitsValue, List.foldl_append, ← digitsValue, ih]
    simp only [List.foldl_cons, List.foldl_nil]
    omega

/-- Only zero is written with a zero in front. -/
theorem head?_decimals {n : Nat} (h : (decimals n).head? = some 0) : n = 0 := by
  fun_induction decimals n with
  | case1 n hn => simpa using h
  | case2 n hn ih =>
    obtain ⟨d, ds, hd⟩ := List.exists_cons_of_ne_nil (decimals_ne_nil (n / 10))
    rw [hd] at h ih
    have hzero : n / 10 = 0 := ih h
    omega

/-! ## 2. Texts of integers -/

/-- The texts of an integer: at least one digit, zeros in front or not, behind a sign or none. -/
inductive IntegerText : List Char → Int → Prop
  | unsigned {ds : List Nat} (hne : ds ≠ []) (hds : ∀ d ∈ ds, d < 10) :
    IntegerText (ds.map Nat.digitChar) (digitsValue ds)
  | plus {ds : List Nat} (hne : ds ≠ []) (hds : ∀ d ∈ ds, d < 10) :
    IntegerText ('+' :: ds.map Nat.digitChar) (digitsValue ds)
  | minus {ds : List Nat} (hne : ds ≠ []) (hds : ∀ d ∈ ds, d < 10) :
    IntegerText ('-' :: ds.map Nat.digitChar) (-(digitsValue ds : Int))

/-- The numbers that an integer is read as: the nearest one, and for zero the one with a sign too. -/
inductive Rounded : Int → Binary64 → Prop
  | nearest (i : Int) : Rounded i (ofInt i)
  | negativeZero : Rounded 0 (zero true)

/-- Digits of either sign are rounded to the integer that they are written for. -/
theorem rounded_ofRatio (negative : Bool) (n : Nat) :
    Rounded (if negative then -(n : Int) else n) (ofRatio negative n 1) := by
  cases negative with
  | false => exact .nearest n
  | true =>
    rcases Nat.eq_zero_or_pos n with rfl | hpos
    · exact .negativeZero
    · have hint : ofInt (-(n : Int)) = ofRatio true n 1 := by
        rw [ofInt, Int.natAbs_neg, Int.natAbs_natCast, decide_eq_true (by omega)]
      rw [if_pos rfl, ← hint]
      exact .nearest _

theorem ofDecimal_zero_exponent (negative : Bool) (n : Nat) :
    ofDecimal negative n 0 = ofRatio negative n 1 := by
  rw [ofDecimal]
  split
  · rename_i hzero
    rw [hzero, ofRatio, if_pos rfl]
  · have hmagnitude : ¬ (0 + (Nat.log2 n : Int) / 3 < -400) := by omega
    simp only [hmagnitude]
    simp

theorem digit?_digitChar {d : Nat} (hd : d < 10) : digit? (Nat.digitChar d) = some d := by
  revert d
  decide

theorem takeDigits_digits {ds : List Nat} (hds : ∀ d ∈ ds, d < 10) :
    takeDigits (ds.map Nat.digitChar) = (ds, []) := by
  induction ds with
  | nil => rfl
  | cons d ds ih =>
    obtain ⟨hd, hds⟩ := List.forall_mem_cons.mp hds
    have ih := ih hds
    simp only [takeDigits, Prod.mk.injEq] at ih
    simp [takeDigits, digit?_digitChar hd, ih.1, ih.2]

theorem parseUnsigned?_digits (negative : Bool) {ds : List Nat} (hne : ds ≠ [])
    (hds : ∀ d ∈ ds, d < 10) :
    parseUnsigned? negative (ds.map Nat.digitChar) =
      some (ofRatio negative (digitsValue ds) 1) := by
  rw [parseUnsigned?, takeDigits_digits hds]
  simp [hne, ofDecimal_zero_exponent]

/-- No word of letters is read where a digit stands first. -/
theorem lower_digits_ne {ds : List Nat} (hne : ds ≠ []) (hds : ∀ d ∈ ds, d < 10) (word : String)
    (hword : ∀ d < 10, word.toList.head? ≠ some (Nat.digitChar d).toLower) :
    String.ofList ((ds.map Nat.digitChar).map Char.toLower) ≠ word := by
  rintro rfl
  obtain ⟨d, rest, rfl⟩ := List.exists_cons_of_ne_nil hne
  refine hword d (hds d List.mem_cons_self) ?_
  simp

/-- Behind the sign, the digits decide. -/
theorem parse?_of_takeSign {s : String} {negative : Bool} {ds : List Nat} (hne : ds ≠ [])
    (hds : ∀ d ∈ ds, d < 10) (h : takeSign s.toList = (negative, ds.map Nat.digitChar)) :
    parse? s = some (ofRatio negative (digitsValue ds) 1) := by
  have hinf := lower_digits_ne hne hds "inf" (by decide)
  have hinfinity := lower_digits_ne hne hds "infinity" (by decide)
  have hnan := lower_digits_ne hne hds "nan" (by decide)
  rw [parse?, h]
  simp only [hinf, hinfinity, hnan, decide_false, Bool.or_false, Bool.false_eq_true, if_false,
    parseUnsigned?_digits negative hne hds]

theorem takeSign_digits {ds : List Nat} (hne : ds ≠ []) (hds : ∀ d ∈ ds, d < 10) :
    takeSign (ds.map Nat.digitChar) = (false, ds.map Nat.digitChar) := by
  obtain ⟨d, rest, rfl⟩ := List.exists_cons_of_ne_nil hne
  have hsign : ∀ d < 10, Nat.digitChar d ≠ '-' ∧ Nat.digitChar d ≠ '+' := by decide
  obtain ⟨hminus, hplus⟩ := hsign d (hds d List.mem_cons_self)
  rw [List.map_cons, takeSign]
  · intro cs h
    exact hminus (List.cons.inj h).1
  · intro cs h
    exact hplus (List.cons.inj h).1

/-- **The texts of an integer are read** as a number that it is rounded to. -/
theorem parse?_of_integerText {s : String} {i : Int} (h : IntegerText s.toList i) :
    ∃ x, parse? s = some x ∧ Rounded i x := by
  generalize hcs : s.toList = cs at h
  cases h with
  | unsigned hne hds =>
    exact ⟨_, parse?_of_takeSign hne hds (hcs ▸ takeSign_digits hne hds), rounded_ofRatio false _⟩
  | plus hne hds =>
    exact ⟨_, parse?_of_takeSign hne hds (by rw [hcs]; rfl), rounded_ofRatio false _⟩
  | minus hne hds =>
    exact ⟨_, parse?_of_takeSign hne hds (by rw [hcs]; rfl), rounded_ofRatio true _⟩

end LoginGate.Binary64
