/-
# HMAC-SHA256

The keyed hash of a message: the digest of the outer key and of the digest of the inner key and the
message.
-/
import LoginGate.Cipher.Sha256

namespace LoginGate.Cipher.Hmac

/-- The key as one block of 64 bytes; a longer key is replaced by its digest. -/
def keyBlock (key : List UInt8) : List UInt8 :=
  let key := if 64 < key.length then Sha256.digest key else key
  key ++ List.replicate (64 - key.length) 0

/-- The tag of a message under a key. -/
def tag (key message : List UInt8) : List UInt8 :=
  let block := keyBlock key
  let inner := Sha256.digest (block.map (· ^^^ 0x36) ++ message)
  Sha256.digest (block.map (· ^^^ 0x5c) ++ inner)

@[simp] theorem length_tag (key message : List UInt8) : (tag key message).length = 32 := by
  simp [tag]

end LoginGate.Cipher.Hmac
