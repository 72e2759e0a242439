/-
# Decimal text of binary64 numbers

Reading: `ofDecimal` is the number nearest to a decimal, and `parse?` reads the texts of decimals,
infinities and `nan`.  Writing: `shortest` finds the fewest decimal digits that read back as the
number, and of those the nearest; `DecimalStyle.write` lays digits out in positional or exponent
notation, and `plain` writes a number without ever using an exponent.
-/
import LoginGate.Binary64.Basic

namespace LoginGate.Binary64

/-! ## 1. Reading -/

/-- The value of a list of decimal digits. -/
def digitsValue (digits : List Nat) : Nat :=
  digits.foldl (fun n d => 10 * n + d) 0

/-- The number nearest to `digits * 10 ^ exponent`.  Exponents far outside the range of the format
are answered without forming the power. -/
def ofDecimal (negative : Bool) (digits : Nat) (exponent : Int) : Binary64 :=
  if digits = 0 then zero negative
  else
    let magnitude := exponent + (Nat.log2 digits : Int) / 3
    if 400 < exponent then .infinity negative
    else if magnitude < -400 then zero negative
    else if 0 ≤ exponent then ofRatio negative (digits * Nat.pow 10 exponent.toNat) 1
    else ofRatio negative digits (Nat.pow 10 (-exponent).toNat)

/-- The value of a decimal digit. -/
def digit? (c : Char) : Option Nat :=
  if '0' ≤ c && c ≤ '9' then some (c.toNat - '0'.toNat) else none

/-- The longest run of digits at the front, and what follows it. -/
def takeDigits (cs : List Char) : List Nat × List Char :=
  ((cs.takeWhile (digit? · |>.isSome)).filterMap digit?, cs.dropWhile (digit? · |>.isSome))

/-- A sign, if one is in front. -/
def takeSign : List Char → Bool × List Char
  | '-' :: cs => (true, cs)
  | '+' :: cs => (false, cs)
  | cs => (false, cs)

/-- An unsigned decimal: digits with an optional point among or around them, at least one digit, and
an optional exponent. -/
def parseUnsigned? (negative : Bool) (cs : List Char) : Option Binary64 :=
  let (whole, rest) := takeDigits cs
  let (fraction, rest) := match rest with
    | '.' :: r => takeDigits r
    | r => ([], r)
  if whole.isEmpty && fraction.isEmpty then none
  else
    let value := digitsValue (whole ++ fraction)
    let scale : Int := -(fraction.length : Int)
    match rest with
    | [] => some (ofDecimal negative value scale)
    | e :: r =>
      if e = 'e' || e = 'E' then
        let (down, r) := takeSign r
        let (exponent, r) := takeDigits r
        if exponent.isEmpty || !r.isEmpty then none
        else
          let x : Int := digitsValue exponent
          some (ofDecimal negative value (scale + if down then -x else x))
      else none

/-- Reads a number: an optional sign, then a decimal, `inf`, `infinity` or `nan` in any ASCII case.
-/
def parse? (s : String) : Option Binary64 :=
  let (negative, cs) := takeSign s.toList
  let word := String.ofList (cs.map Char.toLower)
  if word = "inf" || word = "infinity" then some (.infinity negative)
  else if word = "nan" then some .nan
  else parseUnsigned? negative cs

/-! ## 2. The shortest digits -/

/-- How many decimal digits a natural number has; zero has one. -/
def digitCount (n : Nat) : Nat := (Nat.toDigits 10 n).length

/-- The least `p` with `num / den < 10 ^ p`, for a positive ratio. -/
def decimalMagnitude (num den : Nat) : Int :=
  if den ≤ num then digitCount (num / den)
  else
    let p : Nat := digitCount (den / num)
    if den = num * Nat.pow 10 (p - 1) then 2 - (p : Int) else 1 - (p : Int)

/-- An open or closed interval of ratios over one denominator, with the ratio it is about. -/
structure RoundingInterval where
  low : Nat
  value : Nat
  high : Nat
  den : Nat
  /-- Whether the ends belong to the interval. -/
  closed : Bool

/-- The reals that round to a positive finite number: the interval between the midpoints to its
neighbours, with its ends when the mantissa is even. -/
def roundingInterval (m : Nat) (e : Int) : RoundingInterval :=
  let below := if m = leastNormal && minExponent < e then 1 else 2
  let up := Nat.pow 2 (e - 2).toNat
  { low := (4 * m - below) * up, value := 4 * m * up, high := (4 * m + 2) * up,
    den := Nat.pow 2 (2 - e).toNat, closed := m % 2 == 0 }

/-- Whether `digits * 10 ^ scale` lies in the interval. -/
def RoundingInterval.contains (i : RoundingInterval) (digits : Nat) (scale : Int) : Bool :=
  let x := digits * Nat.pow 10 scale.toNat * i.den
  let unit := Nat.pow 10 (-scale).toNat
  if i.closed then i.low * unit ≤ x && x ≤ i.high * unit
  else i.low * unit < x && x < i.high * unit

/-- The point of the grid of step `10 ^ scale` that lies in the interval nearest to its value; of
two equally near points the even one. -/
def RoundingInterval.nearest? (i : RoundingInterval) (scale : Int) : Option Nat :=
  let num := i.value * Nat.pow 10 (-scale).toNat
  let den := i.den * Nat.pow 10 scale.toNat
  let q := num / den
  let twice := 2 * (num % den)
  let (first, second) :=
    if twice < den || (twice == den && q % 2 == 0) then (q, q + 1) else (q + 1, q)
  if i.contains first scale then some first
  else if i.contains second scale then some second
  else none

/-- Tries grids of one more digit each until one has a point in the interval. -/
def RoundingInterval.search (i : RoundingInterval) (magnitude : Int) (count : Nat) :
    Nat → Nat × Int
  | 0 => (0, 0)
  | fuel + 1 =>
    let scale := magnitude - count
    match i.nearest? scale with
    | some digits => (digits, scale)
    | none => i.search magnitude (count + 1) fuel

/-- Moves trailing zeros of the digits into the scale. -/
def stripZeros (digits : Nat) (scale : Int) : Nat → Nat × Int
  | 0 => (digits, scale)
  | fuel + 1 =>
    if digits % 10 = 0 && digits ≠ 0 then stripZeros (digits / 10) (scale + 1) fuel
    else (digits, scale)

/-- The fewest digits, and their power of ten, that read back as a positive finite number; seventeen
are always enough. -/
def shortest (m : Nat) (e : Int) : Nat × Int :=
  let i := roundingInterval m e
  let (digits, scale) := i.search (decimalMagnitude i.value i.den) 1 18
  stripZeros digits scale 20

/-! ## 3. Layout -/

/-- The text of a natural number in decimal. -/
def natText (n : Nat) : List Char := Nat.toDigits 10 n

/-- Digits in positional notation, without a point when the value is whole. -/
def positional (digits : Nat) (scale : Int) : List Char :=
  let ds := natText digits
  if 0 ≤ scale then ds ++ List.replicate scale.toNat '0'
  else
    let places := (-scale).toNat
    if places < ds.length then
      ds.take (ds.length - places) ++ '.' :: ds.drop (ds.length - places)
    else
      ['0', '.'] ++ List.replicate (places - ds.length) '0' ++ ds

/-- Digits as one digit, a point and the others, and the exponent with its sign. -/
def scientific (digits : Nat) (scale : Int) : List Char :=
  let ds := natText digits
  let exponent : Int := scale + ds.length - 1
  let mantissa := match ds with
    | [] => []
    | [d] => [d]
    | d :: rest => d :: '.' :: rest
  mantissa ++ 'e' :: (if exponent < 0 then '-' else '+') :: natText exponent.natAbs

/-- How a format lays out a number. -/
structure DecimalStyle where
  /-- The least power of ten of a first digit that is written in positional notation. -/
  least : Int
  /-- The greatest such power. -/
  greatest : Int
  /-- Whether a whole number in positional notation is followed by `.0`. -/
  pointZero : Bool

/-- The unsigned text of a finite number in a style. -/
def DecimalStyle.write (style : DecimalStyle) (m : Nat) (e : Int) : List Char :=
  let (digits, scale) := if m = 0 then (0, 0) else shortest m e
  let first : Int := scale + digitCount digits - 1
  if style.least ≤ first && first ≤ style.greatest then
    positional digits scale ++ (if style.pointZero && 0 ≤ scale then ['.', '0'] else [])
  else scientific digits scale

/-- Every finite number in positional notation, whole numbers without a point. -/
def plainStyle : DecimalStyle := ⟨-400, 400, false⟩

/-- The text of a number without an exponent: `inf`, `-inf` and `NaN` for those that are not
finite, and a sign also before a negative zero. -/
def plain : Binary64 → String
  | .nan => "NaN"
  | .infinity s => if s then "-inf" else "inf"
  | .finite s m e => String.ofList ((if s then ['-'] else []) ++ plainStyle.write m e)

end LoginGate.Binary64
