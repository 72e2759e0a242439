/-
# The form encoding of URLs

Names and values of a query string are written as `application/x-www-form-urlencoded`: letters,
digits and `*-._` stand for themselves, a space is a plus sign, and every other byte of the UTF-8
form is a percent sign and two hexadecimal digits in upper case (`encode`).  Reading (`decode`) is
total: a percent sign without two digits stands for itself, and ill-formed UTF-8 becomes replacement
characters.
-/
import LoginGate.Text.Split
import LoginGate.Text.Utf8

namespace LoginGate.Text.FormEncoded

/-! ## 1. Writing -/

/-- Bytes that stand for themselves. -/
def isPlain (b : UInt8) : Bool :=
  (0x30 ≤ b && b ≤ 0x39) || (0x41 ≤ b && b ≤ 0x5A) || (0x61 ≤ b && b ≤ 0x7A) || b == 0x2A ||
    b == 0x2D || b == 0x2E || b == 0x5F

/-- A hexadecimal digit in upper case. -/
def hexDigit (n : Nat) : Char :=
  if n < 10 then Char.ofNat (0x30 + n) else Char.ofNat (0x37 + n)

/-- The written form of one byte. -/
def encodeByte (b : UInt8) : List Char :=
  if isPlain b then [Char.ofNat b.toNat]
  else if b == 0x20 then ['+']
  else ['%', hexDigit (b.toNat / 16), hexDigit (b.toNat % 16)]

/-- The written form of a name or value. -/
def encode (s : String) : List Char :=
  (Utf8.bytes s).flatMap encodeByte

/-- Pairs in their order, `name=value` with ampersands between them. -/
def encodePairs (pairs : List (String × String)) : List Char :=
  joinWith ['&'] (pairs.map fun (k, v) => encode k ++ '=' :: encode v)

/-! ## 2. Reading -/

/-- The value of a hexadecimal digit in either case. -/
def hexValue? (b : UInt8) : Option Nat :=
  if 0x30 ≤ b && b ≤ 0x39 then some (b.toNat - 0x30)
  else if 0x41 ≤ b && b ≤ 0x46 then some (b.toNat - 0x37)
  else if 0x61 ≤ b && b ≤ 0x66 then some (b.toNat - 0x57)
  else none

/-- The byte of two hexadecimal digits. -/
def hexByte? (a b : UInt8) : Option UInt8 := do
  let high ← hexValue? a
  let low ← hexValue? b
  some (UInt8.ofNat (16 * high + low))

/-- The bytes that a written form stands for. -/
def decodeBytes : List UInt8 → List UInt8
  | [] => []
  | 0x25 :: a :: b :: rest =>
    match hexByte? a b with
    | some byte => byte :: decodeBytes rest
    | none => 0x25 :: decodeBytes (a :: b :: rest)
  | 0x2B :: rest => 0x20 :: decodeBytes rest
  | b :: rest => b :: decodeBytes rest
termination_by bs => bs.length

/-- The text that a written form stands for. -/
def decode (bs : List UInt8) : String :=
  String.ofList (Utf8.decodeLossy (decodeBytes bs))

/-- The name and value of a segment; without an equals sign the value is empty. -/
def decodeSegment (segment : List UInt8) : String × String :=
  match cutFirst 0x3D segment with
  | some (k, v) => (decode k, decode v)
  | none => (decode segment, "")

/-- The pairs of a query string in their order; empty segments are left out. -/
def decodePairs (bs : List UInt8) : List (String × String) :=
  ((splitAt 0x26 bs).filter (!·.isEmpty)).map decodeSegment

end LoginGate.Text.FormEncoded
