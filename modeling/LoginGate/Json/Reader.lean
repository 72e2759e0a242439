/-
# Reading JSON

`Value.ofTree?` turns a tree into a value, and `Value.ofBytes?` and `Value.parse?` read a whole
text.  Three things are refused that the grammar allows: text that is not well-formed UTF-8 or
escapes half of a surrogate pair, numbers beyond the range of binary64, and nesting deeper than
`maxDepth`.

A numeral that is no 64-bit integer is read with a bounded significand: digits are taken while they
fit 64 bits, and the significand is then multiplied or divided by a power of ten with one rounding
each.  The result can differ from the nearest number in its last digit; this is the number that
counts.
-/
import LoginGate.Json.Tree
import LoginGate.Json.Value
import LoginGate.Text.Utf8
import LoginGate.Word

namespace LoginGate.Json

/-! ## 1. Strings -/

/-- The value of a hexadecimal digit. -/
def hexValue (b : UInt8) : Nat :=
  if b ≤ 0x39 then b.toNat - 0x30
  else if b ≤ 0x46 then b.toNat - 0x37
  else b.toNat - 0x57

/-- The 16-bit unit of four hexadecimal digits. -/
def hexUnit (a b c d : UInt8) : Nat :=
  ((hexValue a * 16 + hexValue b) * 16 + hexValue c) * 16 + hexValue d

/-- The byte that a one-letter escape stands for. -/
def escapedByte (e : UInt8) : UInt8 :=
  if e == 0x62 then 0x08
  else if e == 0x66 then 0x0C
  else if e == 0x6E then 0x0A
  else if e == 0x72 then 0x0D
  else if e == 0x74 then 0x09
  else e

/-- The bytes that the inside of a string stands for; nothing when it escapes half of a surrogate
pair. -/
def unescape? : List UInt8 → Option (List UInt8)
  | [] => some []
  | 0x5C :: 0x75 :: a :: b :: c :: d :: rest =>
    let unit := hexUnit a b c d
    if 0xD800 ≤ unit && unit ≤ 0xDBFF then
      match rest with
      | 0x5C :: 0x75 :: e :: f :: g :: h :: rest =>
        let low := hexUnit e f g h
        if 0xDC00 ≤ low && low ≤ 0xDFFF then
          let c := Char.ofNat (0x10000 + (unit - 0xD800) * 0x400 + (low - 0xDC00))
          (unescape? rest).map (String.utf8EncodeChar c ++ ·)
        else none
      | _ => none
    else if 0xDC00 ≤ unit && unit ≤ 0xDFFF then none
    else (unescape? rest).map (String.utf8EncodeChar (Char.ofNat unit) ++ ·)
  | 0x5C :: e :: rest => (unescape? rest).map (escapedByte e :: ·)
  | b :: rest => (unescape? rest).map (b :: ·)

/-- The text that the inside of a string stands for. -/
def text? (raw : List UInt8) : Option String := do
  let bytes ← unescape? raw
  let cs ← Text.Utf8.decode? bytes
  some (String.ofList cs)

/-! ## 2. Numbers -/

/-- Takes digits into the significand while it stays within 64 bits; yields the significand, how
many digits it took and how many are left. -/
def takeSignificant (significand taken : Nat) : List Nat → Nat × Nat × Nat
  | [] => (significand, taken, 0)
  | d :: ds =>
    if Word.maxNat64 < significand * 10 + d then (significand, taken, ds.length + 1)
    else takeSignificant (significand * 10 + d) (taken + 1) ds

/-- The greatest exponent of ten that is applied in one step. -/
def maxScaleStep : Nat := 308

/-- The power of ten of one step. -/
def scaleStep : Binary64 := Binary64.ofNat (Nat.pow 10 maxScaleStep)

/-- Divides by `10^308` until the exponent is within one step or the number is zero. -/
def scaleDown (x : Binary64) (exponent : Int) : Nat → Binary64 × Int
  | 0 => (x, exponent)
  | steps + 1 =>
    if -(maxScaleStep : Int) ≤ exponent || x.isZero then (x, exponent)
    else scaleDown (x.div scaleStep) (exponent + maxScaleStep) steps

/-- A significand times a power of ten, each step rounded; nothing beyond the range. -/
def scale? (significand : Nat) (exponent : Int) : Option Binary64 :=
  let x := Binary64.ofNat significand
  if x.isZero then some x
  else if 0 ≤ exponent then
    if maxScaleStep < exponent then none
    else
      let y := x.mul (Binary64.ofNat (Nat.pow 10 exponent.toNat))
      if y.isFinite then some y else none
  else
    let (y, e) := scaleDown x exponent 8
    if y.isZero then some y else some (y.div (Binary64.ofNat (Nat.pow 10 (-e).toNat)))

/-- The greatest value of the digits of an exponent. -/
def maxExponentDigits : Nat := 2147483647

/-- The number that a numeral stands for. -/
def Numeral.number? (n : Numeral) : Option Number :=
  let (whole, _, dropped) := takeSignificant 0 0 n.whole
  let (significand, places, _) := takeSignificant whole 0 n.fraction
  let signed (x : Binary64) : Number := .float (if n.negative then x.neg else x)
  let start : Int := dropped - places
  match n.exponent with
  | none =>
    if n.fraction.isEmpty && dropped = 0 then
      if !n.negative then some (.integer significand)
      else if significand = 0 || !Word.isInt64 (-significand) then
        some (signed (Binary64.ofNat significand))
      else some (.integer (-significand))
    else (scale? significand start).map signed
  | some (down, ds) =>
    let exponent : Int := Binary64.digitsValue ds
    if maxExponentDigits < exponent then
      if significand ≠ 0 && !down then none else some (signed (Binary64.zero false))
    else (scale? significand (if down then start - exponent else start + exponent)).map signed

/-! ## 3. Values -/

/-- How deep arrays and objects may be nested. -/
def maxDepth : Nat := 127

mutual

/-- The value of a tree that may nest to a depth. -/
def Value.ofTree? (depth : Nat) : Tree → Option Value
  | .null => some .null
  | .bool b => some (.bool b)
  | .number n => n.number?.map .number
  | .string raw => (text? raw).map .string
  | .array items =>
    if depth = 0 then none else (itemsOfTrees? (depth - 1) items).map .array
  | .object members =>
    if depth = 0 then none
    else (membersOfTrees? (depth - 1) members).map fun ms => Value.ofMembers ms
termination_by structural t => t

/-- The values of the items of an array. -/
def itemsOfTrees? (depth : Nat) : List Tree → Option (List Value)
  | [] => some []
  | t :: ts => do
    let v ← Value.ofTree? depth t
    let vs ← itemsOfTrees? depth ts
    some (v :: vs)
termination_by structural ts => ts

/-- The names and values of the members of an object, repeated names included. -/
def membersOfTrees? (depth : Nat) : List (List UInt8 × Tree) → Option (List (String × Value))
  | [] => some []
  | (raw, t) :: ms => do
    let k ← text? raw
    let v ← Value.ofTree? depth t
    let rest ← membersOfTrees? depth ms
    some ((k, v) :: rest)
termination_by structural ms => ms

end

/-- The value of a whole text given as bytes. -/
def Value.ofBytes? (bs : List UInt8) : Option Value :=
  (Tree.ofBytes? bs).bind (Value.ofTree? maxDepth)

/-- The value of a whole text. -/
def Value.parse? (s : String) : Option Value :=
  Value.ofBytes? (Text.Utf8.bytes s)

end LoginGate.Json
