/-
# AES-256

Encryption of one block of sixteen bytes under a key of 32 bytes, as in FIPS 197.  A block is four
columns of four bytes, and the substitution is computed from its definition: the inverse in the
field of 256 elements, followed by an affine map.
-/

namespace LoginGate.Cipher.Aes256

/-! ## 1. Bytes as elements of the field -/

/-- Multiplication by two modulo the field's polynomial. -/
def double (b : UInt8) : UInt8 :=
  (b <<< 1) ^^^ (if b &&& 0x80 == 0 then 0 else 0x1b)

/-- The product of an element with the lowest bits of another one. -/
def multiplyBits : Nat → UInt8 → UInt8 → UInt8
  | 0, _, _ => 0
  | bits + 1, a, b =>
    (if b &&& 1 == 0 then 0 else a) ^^^ multiplyBits bits (double a) (b >>> 1)

/-- The product of two elements. -/
def multiply (a b : UInt8) : UInt8 := multiplyBits 8 a b

/-- The inverse of an element, its power 254; zero goes to zero. -/
def inverse (b : UInt8) : UInt8 :=
  let p2 := multiply b b
  let p4 := multiply p2 p2
  let p8 := multiply p4 p4
  let p16 := multiply p8 p8
  let p32 := multiply p16 p16
  let p64 := multiply p32 p32
  let p128 := multiply p64 p64
  multiply p128 (multiply p64 (multiply p32 (multiply p16 (multiply p8 (multiply p4 p2)))))

/-- Rotation of a byte to the left. -/
def rotateByte (b : UInt8) (n : UInt8) : UInt8 := (b <<< n) ||| (b >>> (8 - n))

/-- The substitution of a byte. -/
def substitute (b : UInt8) : UInt8 :=
  let i := inverse b
  i ^^^ rotateByte i 1 ^^^ rotateByte i 2 ^^^ rotateByte i 3 ^^^ rotateByte i 4 ^^^ 0x63

/-! ## 2. Columns and blocks -/

/-- A column of a block. -/
structure Column where
  b0 : UInt8
  b1 : UInt8
  b2 : UInt8
  b3 : UInt8
  deriving DecidableEq, Repr

namespace Column

/-- Byte by byte exclusive or. -/
def xor (c d : Column) : Column := ⟨c.b0 ^^^ d.b0, c.b1 ^^^ d.b1, c.b2 ^^^ d.b2, c.b3 ^^^ d.b3⟩

/-- The substitution of every byte. -/
def substitute (c : Column) : Column :=
  ⟨Aes256.substitute c.b0, Aes256.substitute c.b1, Aes256.substitute c.b2, Aes256.substitute c.b3⟩

/-- The bytes moved up by one place. -/
def rotate (c : Column) : Column := ⟨c.b1, c.b2, c.b3, c.b0⟩

/-- The product with the circulant matrix of 2, 3, 1 and 1. -/
def mix (c : Column) : Column :=
  let mixed (w x y z : UInt8) : UInt8 := double w ^^^ (double x ^^^ x) ^^^ y ^^^ z
  ⟨mixed c.b0 c.b1 c.b2 c.b3, mixed c.b1 c.b2 c.b3 c.b0, mixed c.b2 c.b3 c.b0 c.b1,
    mixed c.b3 c.b0 c.b1 c.b2⟩

/-- The bytes of a column. -/
def bytes (c : Column) : List UInt8 := [c.b0, c.b1, c.b2, c.b3]

/-- The column of four bytes; missing bytes are zero. -/
def ofBytes (bs : List UInt8) : Column := ⟨bs.getD 0 0, bs.getD 1 0, bs.getD 2 0, bs.getD 3 0⟩

end Column

/-- A block of sixteen bytes, also a round key. -/
structure Block where
  c0 : Column
  c1 : Column
  c2 : Column
  c3 : Column
  deriving DecidableEq, Repr

namespace Block

/-- Byte by byte exclusive or. -/
def xor (x y : Block) : Block := ⟨x.c0.xor y.c0, x.c1.xor y.c1, x.c2.xor y.c2, x.c3.xor y.c3⟩

/-- The substitution of every byte. -/
def substitute (x : Block) : Block :=
  ⟨x.c0.substitute, x.c1.substitute, x.c2.substitute, x.c3.substitute⟩

/-- Row `n` of the block moved to the left by `n` columns. -/
def shiftRows (x : Block) : Block :=
  ⟨⟨x.c0.b0, x.c1.b1, x.c2.b2, x.c3.b3⟩, ⟨x.c1.b0, x.c2.b1, x.c3.b2, x.c0.b3⟩,
    ⟨x.c2.b0, x.c3.b1, x.c0.b2, x.c1.b3⟩, ⟨x.c3.b0, x.c0.b1, x.c1.b2, x.c2.b3⟩⟩

/-- The mixing of every column. -/
def mixColumns (x : Block) : Block := ⟨x.c0.mix, x.c1.mix, x.c2.mix, x.c3.mix⟩

/-- The bytes of a block. -/
def bytes (x : Block) : List UInt8 := x.c0.bytes ++ x.c1.bytes ++ x.c2.bytes ++ x.c3.bytes

/-- The block of sixteen bytes; missing bytes are zero. -/
def ofBytes (bs : List UInt8) : Block :=
  ⟨Column.ofBytes bs, Column.ofBytes (bs.drop 4), Column.ofBytes (bs.drop 8),
    Column.ofBytes (bs.drop 12)⟩

@[simp] theorem length_bytes (x : Block) : x.bytes.length = 16 := by
  simp [bytes, Column.bytes]

end Block

/-! ## 3. Round keys -/

/-- The round key that follows two round keys, given what its first column takes from the second of
them. -/
def followingKey (before : Block) (twist : Column) : Block :=
  let c0 := before.c0.xor twist
  let c1 := before.c1.xor c0
  let c2 := before.c2.xor c1
  ⟨c0, c1, c2, before.c3.xor c2⟩

/-- The round constants; each makes two round keys. -/
def roundConstants : List UInt8 := [0x01, 0x02, 0x04, 0x08, 0x10, 0x20, 0x40]

/-- The round keys that follow two round keys. -/
def furtherKeys (x y : Block) : List UInt8 → List Block
  | [] => []
  | r :: rs =>
    let x' := followingKey x (y.c3.rotate.substitute.xor ⟨r, 0, 0, 0⟩)
    let y' := followingKey y x'.c3.substitute
    x' :: y' :: furtherKeys x' y' rs

/-- What a key makes: the key of the first step, those of thirteen full rounds and that of the last
round. -/
structure Schedule where
  first : Block
  middle : List Block
  last : Block
  deriving Repr

/-- The schedule of a key of 32 bytes. -/
def Schedule.ofKey (key : List UInt8) : Schedule :=
  let x := Block.ofBytes key
  let y := Block.ofBytes (key.drop 16)
  let further := furtherKeys x y roundConstants
  { first := x, middle := y :: further.take 12, last := further.getD 12 x }

/-! ## 4. Encryption -/

/-- A full round. -/
def round (x roundKey : Block) : Block := (x.substitute.shiftRows.mixColumns).xor roundKey

/-- The encryption of a block. -/
def encrypt (schedule : Schedule) (x : Block) : Block :=
  ((schedule.middle.foldl round (x.xor schedule.first)).substitute.shiftRows).xor schedule.last

end LoginGate.Cipher.Aes256
