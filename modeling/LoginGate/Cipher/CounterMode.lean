/-
# Counter mode

A stream cipher over AES-256: the keystream is the encryption of successive 128-bit counters from an
initial value on, and a message is combined with it byte by byte.  Applying it twice gives the
message back (`apply_apply`).
-/
import LoginGate.Cipher.Aes256
import LoginGate.Cipher.BigEndian

namespace LoginGate.Cipher.CounterMode

/-- The first `blocks` blocks of the keystream from a counter on; the counter wraps. -/
def keystreamBlocks (schedule : Aes256.Schedule) (counter : Nat) : Nat → List UInt8
  | 0 => []
  | blocks + 1 =>
    (Aes256.encrypt schedule (Aes256.Block.ofBytes (BigEndian.toBytes 16 counter))).bytes ++
      keystreamBlocks schedule (counter + 1) blocks

/-- A keystream of at least a number of bytes. -/
def keystream (key iv : List UInt8) (length : Nat) : List UInt8 :=
  keystreamBlocks (Aes256.Schedule.ofKey key) (BigEndian.ofBytes iv) ((length + 15) / 16)

/-- A message combined with the keystream. -/
def apply (key iv message : List UInt8) : List UInt8 :=
  message.zipWith (· ^^^ ·) (keystream key iv message.length)

/-! ## Laws -/

theorem length_keystreamBlocks (schedule : Aes256.Schedule) (counter blocks : Nat) :
    (keystreamBlocks schedule counter blocks).length = 16 * blocks := by
  induction blocks generalizing counter with
  | zero => rfl
  | succ blocks ih => simp [keystreamBlocks, ih]; omega

theorem length_le_keystream (key iv : List UInt8) (length : Nat) :
    length ≤ (keystream key iv length).length := by
  rw [keystream, length_keystreamBlocks]
  omega

@[simp] theorem length_apply (key iv message : List UInt8) :
    (apply key iv message).length = message.length := by
  simp [apply, Nat.min_eq_left (length_le_keystream key iv message.length)]

theorem zipWith_xor_twice {xs ks : List UInt8} (h : xs.length ≤ ks.length) :
    (xs.zipWith (· ^^^ ·) ks).zipWith (· ^^^ ·) ks = xs := by
  induction xs generalizing ks with
  | nil => simp
  | cons x xs ih =>
    cases ks with
    | nil => simp at h
    | cons k ks =>
      have hx : x ^^^ k ^^^ k = x := by
        rw [UInt8.xor_assoc, UInt8.xor_self, UInt8.xor_zero]
      simp only [List.zipWith_cons_cons, hx, ih (by simpa using h)]

/-- The keystream undoes itself. -/
theorem apply_apply (key iv message : List UInt8) :
    apply key iv (apply key iv message) = message := by
  rw [apply, length_apply]
  exact zipWith_xor_twice (length_le_keystream key iv message.length)

end LoginGate.Cipher.CounterMode
