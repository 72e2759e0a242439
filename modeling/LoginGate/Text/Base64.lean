/-
# Base64

Bytes as characters of six bits each.  Both forms in use are canonical: the standard alphabet with
padding to groups of four characters, and the alphabet for URLs without padding.  Reading accepts
exactly what writing produces; bits that stand for nothing have to be zero.
-/

namespace LoginGate.Text.Base64

/-! ## 1. Groups of six bits -/

/-- The groups of six bits of bytes, the last one filled up with zero bits. -/
def toSextets : List UInt8 → List Nat
  | [] => []
  | [a] => [a.toNat / 4, a.toNat % 4 * 16]
  | [a, b] => [a.toNat / 4, a.toNat % 4 * 16 + b.toNat / 16, b.toNat % 16 * 4]
  | a :: b :: c :: rest =>
    a.toNat / 4 :: (a.toNat % 4 * 16 + b.toNat / 16) :: (b.toNat % 16 * 4 + c.toNat / 64) ::
      c.toNat % 64 :: toSextets rest

/-- The bytes of groups of six bits; nothing when a group is left alone or stray bits are set. -/
def ofSextets? : List Nat → Option (List UInt8)
  | [] => some []
  | [_] => none
  | [w, x] => if x % 16 = 0 then some [UInt8.ofNat (w * 4 + x / 16)] else none
  | [w, x, y] =>
    if y % 4 = 0 then
      some [UInt8.ofNat (w * 4 + x / 16), UInt8.ofNat (x % 16 * 16 + y / 4)]
    else none
  | w :: x :: y :: z :: rest =>
    (ofSextets? rest).map fun bs =>
      UInt8.ofNat (w * 4 + x / 16) :: UInt8.ofNat (x % 16 * 16 + y / 4) ::
        UInt8.ofNat (y % 4 * 64 + z) :: bs

/-! ## 2. Alphabets -/

/-- The last two of the sixty-four characters. -/
structure Alphabet where
  sixtyTwo : Char
  sixtyThree : Char

/-- The standard alphabet. -/
def standard : Alphabet := ⟨'+', '/'⟩

/-- The alphabet for URLs and file names. -/
def urlSafe : Alphabet := ⟨'-', '_'⟩

/-- The character of six bits. -/
def Alphabet.char (alphabet : Alphabet) (n : Nat) : Char :=
  if n < 26 then Char.ofNat (n + 65)
  else if n < 52 then Char.ofNat (n + 71)
  else if n < 62 then Char.ofNat (n - 4)
  else if n = 62 then alphabet.sixtyTwo
  else alphabet.sixtyThree

/-- The six bits of a character. -/
def Alphabet.sextet? (alphabet : Alphabet) (c : Char) : Option Nat :=
  if 'A' ≤ c && c ≤ 'Z' then some (c.toNat - 65)
  else if 'a' ≤ c && c ≤ 'z' then some (c.toNat - 71)
  else if '0' ≤ c && c ≤ '9' then some (c.toNat + 4)
  else if c = alphabet.sixtyTwo then some 62
  else if c = alphabet.sixtyThree then some 63
  else none

/-! ## 3. The two forms -/

/-- Bytes in the alphabet for URLs, without padding. -/
def encodeUrl (bs : List UInt8) : List Char :=
  (toSextets bs).map urlSafe.char

/-- Reads what `encodeUrl` writes. -/
def decodeUrl? (cs : List Char) : Option (List UInt8) :=
  (cs.mapM urlSafe.sextet?).bind ofSextets?

/-- How many padding characters stand behind a number of characters. -/
def paddingOf (length : Nat) : Nat := (4 - length % 4) % 4

/-- Bytes in the standard alphabet, padded to groups of four. -/
def encode (bs : List UInt8) : List Char :=
  let body := (toSextets bs).map standard.char
  body ++ List.replicate (paddingOf body.length) '='

/-- Reads what `encode` writes. -/
def decode? (cs : List Char) : Option (List UInt8) :=
  let body := (cs.reverse.dropWhile (· == '=')).reverse
  if cs.length = body.length + paddingOf body.length then
    (body.mapM standard.sextet?).bind ofSextets?
  else none

end LoginGate.Text.Base64
