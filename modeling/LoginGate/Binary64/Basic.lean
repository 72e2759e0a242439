/-
# Binary64 numbers

The numbers of the IEEE 754 format binary64 as exact values: a finite number is a sign, a mantissa
below 2^53 and an exponent of two.  Every operation computes the exact ratio of naturals and rounds
it once, to the nearest number with ties to the even mantissa (`ofRatio`), so nothing here depends
on machine arithmetic.
-/

namespace LoginGate

/-- A number of the format binary64; a finite one is `± mantissa * 2 ^ exponent`. -/
inductive Binary64 where
  | nan
  | infinity (negative : Bool)
  | finite (negative : Bool) (mantissa : Nat) (exponent : Int)
  deriving DecidableEq, Repr, Inhabited

namespace Binary64

/-! ## 1. Rounding a ratio -/

/-- The least exponent of two: that of the subnormal numbers. -/
def minExponent : Int := -1074

/-- The greatest exponent of two of a finite number. -/
def maxExponent : Int := 971

/-- Mantissas are below this power of two, 2^53. -/
def mantissaBound : Nat := 9007199254740992

/-- The least mantissa of a number that is not subnormal, 2^52. -/
def leastNormal : Nat := 4503599627370496

/-- The zero of a sign. -/
def zero (negative : Bool) : Binary64 := .finite negative 0 minExponent

/-- The power of two just below or at a positive ratio. -/
def floorLog2 (num den : Nat) : Int :=
  let k : Int := (num.log2 : Int) - den.log2
  if den * Nat.pow 2 k.toNat ≤ num * Nat.pow 2 (-k).toNat then k else k - 1

/-- The quotient rounded to the nearest natural number, a half going to the even neighbour. -/
def roundQuotient (num den : Nat) : Nat :=
  let q := num / den
  let twice := 2 * (num % den)
  if den < twice || (twice == den && q % 2 == 1) then q + 1 else q

/-- The number nearest to `num / den` for a positive `den`, a tie going to the even mantissa. -/
def ofRatio (negative : Bool) (num den : Nat) : Binary64 :=
  if num = 0 then zero negative
  else
    let e := max (floorLog2 num den - 52) minExponent
    let m := roundQuotient (num * Nat.pow 2 (-e).toNat) (den * Nat.pow 2 e.toNat)
    let (m, e) := if m = mantissaBound then (leastNormal, e + 1) else (m, e)
    if maxExponent < e then .infinity negative else .finite negative m e

/-! ## 2. Arithmetic -/

/-- The number nearest to a natural number. -/
def ofNat (n : Nat) : Binary64 := ofRatio false n 1

/-- The number nearest to an integer. -/
def ofInt (n : Int) : Binary64 := ofRatio (decide (n < 0)) n.natAbs 1

/-- The other sign. -/
def neg : Binary64 → Binary64
  | .nan => .nan
  | .infinity s => .infinity (!s)
  | .finite s m e => .finite (!s) m e

/-- Whether the sign is set; it is told apart for zero as well. -/
def isNegative : Binary64 → Bool
  | .nan => false
  | .infinity s => s
  | .finite s _ _ => s

/-- A finite number as numerator and denominator. -/
def ratio (m : Nat) (e : Int) : Nat × Nat := (m * Nat.pow 2 e.toNat, Nat.pow 2 (-e).toNat)

/-- The product, rounded once. -/
def mul : Binary64 → Binary64 → Binary64
  | .nan, _ | _, .nan => .nan
  | .infinity s, .infinity t => .infinity (s != t)
  | .infinity s, .finite t m _ | .finite t m _, .infinity s =>
    if m = 0 then .nan else .infinity (s != t)
  | .finite s m e, .finite t n f =>
    let (num, den) := ratio (m * n) (e + f)
    ofRatio (s != t) num den

/-- The quotient, rounded once. -/
def div : Binary64 → Binary64 → Binary64
  | .nan, _ | _, .nan => .nan
  | .infinity _, .infinity _ => .nan
  | .infinity s, .finite t _ _ => .infinity (s != t)
  | .finite s _ _, .infinity t => zero (s != t)
  | .finite s m e, .finite t n f =>
    if n = 0 then (if m = 0 then .nan else .infinity (s != t))
    else
      let (num, den) := ratio m (e - f)
      ofRatio (s != t) num (den * n)

/-- The sum, rounded once. -/
def add : Binary64 → Binary64 → Binary64
  | .nan, _ | _, .nan => .nan
  | .infinity s, .infinity t => if s = t then .infinity s else .nan
  | .infinity s, .finite .. | .finite .., .infinity s => .infinity s
  | .finite s m e, .finite t n f =>
    let g := min e f
    let a : Int := (m * Nat.pow 2 (e - g).toNat : Nat)
    let b : Int := (n * Nat.pow 2 (f - g).toNat : Nat)
    let sum := (if s then -a else a) + (if t then -b else b)
    if sum = 0 then zero (s && t)
    else
      let (num, den) := ratio sum.natAbs g
      ofRatio (decide (sum < 0)) num den

/-! ## 3. Comparison and conversion -/

/-- Whether the value is the integer; the zero of either sign is the integer 0. -/
def isInteger (x : Binary64) (n : Int) : Bool :=
  match x with
  | .nan | .infinity _ => false
  | .finite s m e =>
    let (num, den) := ratio m e
    (if s then -(num : Int) else num) == n * den

/-- Whether the value is a zero of either sign. -/
def isZero : Binary64 → Bool
  | .finite _ m _ => m == 0
  | _ => false

/-- Whether the value is neither infinite nor not a number. -/
def isFinite : Binary64 → Bool
  | .finite .. => true
  | _ => false

/-- The value without its fractional part, clamped to a range; what is not a number becomes zero. -/
def truncateTo (low high : Int) : Binary64 → Int
  | .nan => 0
  | .infinity s => if s then low else high
  | .finite s m e =>
    let (num, den) := ratio m e
    let t : Int := (num / den : Nat)
    max low (min high (if s then -t else t))

/-- The nearest integer, a half going away from zero, clamped to a range; what is not a number
becomes zero. -/
def roundTo (low high : Int) : Binary64 → Int
  | .nan => 0
  | .infinity s => if s then low else high
  | .finite s m e =>
    let (num, den) := ratio m e
    let t : Int := ((2 * num + den) / (2 * den) : Nat)
    max low (min high (if s then -t else t))

/-- Whether one number is at most another; nothing is comparable with what is not a number. -/
def le : Binary64 → Binary64 → Bool
  | .nan, _ | _, .nan => false
  | .infinity s, .infinity t => s || !t
  | .infinity s, .finite .. => s
  | .finite .., .infinity t => !t
  | .finite s m e, .finite t n f =>
    let (a, b) := ratio m e
    let (c, d) := ratio n f
    let left : Int := (if s then -(a : Int) else a) * d
    let right : Int := (if t then -(c : Int) else c) * b
    left ≤ right

end Binary64

end LoginGate
