/-
# Numbers in TOML

Integers in decimal, hexadecimal, octal or binary, and floats.  A single underscore may stand
between two digits of any of them.  An integer has to fit 64 bits with a sign, and a float must not
run over the positive end of its range.
-/
import LoginGate.Binary64.Decimal
import LoginGate.Toml.Value
import LoginGate.Word

namespace LoginGate.Toml

/-! ## 1. Digits -/

/-- The value of a digit in a base up to sixteen. -/
def digitIn? (base : Nat) (c : Char) : Option Nat :=
  let n :=
    if '0' ≤ c && c ≤ '9' then c.toNat - 0x30
    else if 'A' ≤ c && c ≤ 'F' then c.toNat - 0x37
    else if 'a' ≤ c && c ≤ 'f' then c.toNat - 0x57
    else base
  if n < base then some n else none

/-- Digits behind a first one, in reverse in front of those already taken; an underscore needs a
digit behind it. -/
def moreDigits? (base : Nat) (taken : List Nat) : List Char → Option (List Nat × List Char)
  | [] => some (taken.reverse, [])
  | '_' :: [] => none
  | '_' :: d :: rest =>
    match digitIn? base d with
    | some n => moreDigits? base (n :: taken) rest
    | none => none
  | c :: rest =>
    match digitIn? base c with
    | some n => moreDigits? base (n :: taken) rest
    | none => some (taken.reverse, c :: rest)

/-- One or more digits. -/
def digits? (base : Nat) : List Char → Option (List Nat × List Char)
  | [] => none
  | c :: rest => (digitIn? base c).bind fun n => moreDigits? base [n] rest

/-- One or more decimal digits; a leading zero stands alone. -/
def wholeDigits? : List Char → Option (List Nat × List Char)
  | '0' :: rest => some ([0], rest)
  | cs => digits? 10 cs

/-- The value of digits in a base. -/
def valueIn (base : Nat) (ds : List Nat) : Nat := ds.foldl (fun n d => base * n + d) 0

/-! ## 2. Integers -/

/-- An integer that fits 64 bits. -/
def word? (n : Int) : Option Value :=
  if Word.isInt64 n then some (.integer n) else none

/-- The base that a letter behind a zero stands for. -/
def baseOf? (c : Char) : Option Nat :=
  if c = 'x' then some 16 else if c = 'o' then some 8 else if c = 'b' then some 2 else none

/-- An integer in decimal. -/
def decimalInteger? (cs : List Char) : Option (Value × List Char) := do
  let (negative, cs) := Binary64.takeSign cs
  let (ds, rest) ← wholeDigits? cs
  let n : Int := valueIn 10 ds
  let v ← word? (if negative then -n else n)
  some (v, rest)

/-- An integer. -/
def integer? (cs : List Char) : Option (Value × List Char) :=
  match cs with
  | '0' :: mark :: rest =>
    match baseOf? mark with
    | some base => do
      let (ds, rest) ← digits? base rest
      let v ← word? (valueIn base ds)
      some (v, rest)
    | none => decimalInteger? cs
  | _ => decimalInteger? cs

/-! ## 3. Floats -/

/-- Whether a character opens an exponent. -/
def isExponentMark (c : Char) : Bool := c == 'e' || c == 'E'

/-- A point and digits, if a point follows. -/
def fraction? : List Char → Option (List Nat × List Char)
  | '.' :: rest => digits? 10 rest
  | cs => some ([], cs)

/-- An exponent, if one follows. -/
def exponent? (cs : List Char) : Option (Int × List Char) :=
  match cs with
  | [] => some (0, [])
  | c :: rest =>
    if isExponentMark c then do
      let (down, rest) := Binary64.takeSign rest
      let (ds, rest) ← digits? 10 rest
      let n : Int := valueIn 10 ds
      some (if down then -n else n, rest)
    else some (0, cs)

/-- A float without its sign: `inf`, `nan`, or a decimal with a fraction, an exponent or both. -/
def unsignedFloat? (negative : Bool) (cs : List Char) : Option (Value × List Char) :=
  match cs with
  | 'i' :: 'n' :: 'f' :: rest => some (.float (.infinity negative), rest)
  | 'n' :: 'a' :: 'n' :: rest => some (.float .nan, rest)
  | _ => do
    let (whole, rest) ← wholeDigits? cs
    if !(rest.head?.any fun c => c == '.' || isExponentMark c) then none
    else
      let (fraction, rest) ← fraction? rest
      let (exponent, rest) ← exponent? rest
      let x := Binary64.ofDecimal negative (valueIn 10 (whole ++ fraction))
        (exponent - fraction.length)
      if x = .infinity false then none else some (.float x, rest)

/-- A float. -/
def float? (cs : List Char) : Option (Value × List Char) :=
  let (negative, rest) := Binary64.takeSign cs
  unsignedFloat? negative rest

/-- A number, a date or a time. -/
def numberOrDate? (cs : List Char) : Option (Value × List Char) :=
  ((DateTime.read? cs).map fun (d, rest) => (Value.dateTime d, rest)).or
    ((float? cs).or (integer? cs))

end LoginGate.Toml
