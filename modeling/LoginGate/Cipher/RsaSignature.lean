/-
# RSA signatures

Verification of PKCS #1 version 1.5 signatures over SHA-256.  A public key is usable when its
modulus is odd and has 2048 to 8192 bits, and its exponent is odd, at least 3 and below 2^33; both
are written without leading zeros.
-/
import LoginGate.Cipher.Sha256

namespace LoginGate.Cipher.RsaSignature

/-- A public key as the bytes of its modulus and exponent. -/
structure PublicKey where
  modulus : List UInt8
  exponent : List UInt8
  deriving DecidableEq, Repr

/-- Whether bytes are the shortest form of an odd number. -/
def isOdd (bs : List UInt8) : Bool :=
  bs.head?.any (· != 0) && bs.getLast?.any (· % 2 == 1)

/-- Whether a key may be used. -/
def PublicKey.isUsable (key : PublicKey) : Bool :=
  let e := BigEndian.ofBytes key.exponent
  isOdd key.modulus && 256 ≤ key.modulus.length && key.modulus.length ≤ 1024 &&
    isOdd key.exponent && 3 ≤ e && e < 8589934592

/-- A power modulo a number, over the bits of an exponent that the first argument bounds. -/
def powerMod (modulus : Nat) : Nat → Nat → Nat → Nat
  | 0, _, _ => 1 % modulus
  | bits + 1, base, exponent =>
    let half := powerMod modulus bits (base * base % modulus) (exponent / 2)
    if exponent % 2 = 1 then base * half % modulus else half

/-- The mark of a SHA-256 digest in a signature: the encoding of its algorithm and length. -/
def digestMark : List UInt8 :=
  [0x30, 0x31, 0x30, 0x0d, 0x06, 0x09, 0x60, 0x86, 0x48, 0x01, 0x65, 0x03, 0x04, 0x02, 0x01, 0x05,
    0x00, 0x04, 0x20]

/-- The padded digest of a message in a number of bytes. -/
def padded (length : Nat) (message : List UInt8) : List UInt8 :=
  let tail := digestMark ++ Sha256.digest message
  0x00 :: 0x01 :: List.replicate (length - tail.length - 3) 0xff ++ 0x00 :: tail

/-- Whether a signature of a message is the key owner's. -/
def verify (key : PublicKey) (message signature : List UInt8) : Bool :=
  let n := BigEndian.ofBytes key.modulus
  let s := BigEndian.ofBytes signature
  key.isUsable && signature.length == key.modulus.length && 0 < s && s < n &&
    BigEndian.toBytes key.modulus.length (powerMod n 33 s (BigEndian.ofBytes key.exponent)) ==
      padded key.modulus.length message

end LoginGate.Cipher.RsaSignature
