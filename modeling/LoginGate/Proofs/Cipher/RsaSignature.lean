/-
# Keys under which a message is signed

Verification of a signature is an equation between numbers: a power of the signature, taken modulo
the key, is the number that the padded message stands for.  So there is a key of 2048 bits for every
message, under which a cube without further secrets is its signature (`verify_keyFor`): the modulus
is what the cube exceeds the message by.  Whoever publishes keys can thus sign what they like, and a
statement about signed messages is about any message at all.
-/
import LoginGate.Cipher.RsaSignature
import Mathlib.Data.List.Induction
import Mathlib.Tactic.Ring

namespace LoginGate.Cipher

/-! ## 1. Numbers and their bytes -/

namespace BigEndian

theorem ofBytes_concat (bs : List UInt8) (b : UInt8) :
    ofBytes (bs ++ [b]) = 256 * ofBytes bs + b.toNat := by
  rw [ofBytes, List.foldl_append]
  rfl

theorem ofBytes_lt (bs : List UInt8) : ofBytes bs < 256 ^ bs.length := by
  induction bs using List.reverseRecOn with
  | nil => decide
  | append_singleton bs b ih =>
    have hb := b.toNat_lt
    rw [ofBytes_concat, List.length_append, List.length_singleton, Nat.pow_succ]
    omega

theorem ofBytes_append (front back : List UInt8) :
    ofBytes (front ++ back) = ofBytes front * 256 ^ back.length + ofBytes back := by
  induction back using List.reverseRecOn with
  | nil => simp [ofBytes]
  | append_singleton back b ih =>
    rw [← List.append_assoc, ofBytes_concat, ofBytes_concat, ih, List.length_append,
      List.length_singleton, Nat.pow_succ]
    ring

/-- **A number is read back** from as many bytes as hold it. -/
theorem ofBytes_toBytes {width n : Nat} (h : n < 256 ^ width) : ofBytes (toBytes width n) = n := by
  induction width generalizing n with
  | zero =>
    rw [Nat.pow_zero] at h
    rw [toBytes, Nat.lt_one_iff.mp h]
    rfl
  | succ width ih =>
    have hlow : (UInt8.ofNat n).toNat = n % 256 := UInt8.toNat_ofNat'
    rw [Nat.pow_succ] at h
    rw [toBytes, ofBytes_concat, ih (by omega), hlow]
    omega

/-- **Bytes are written back** from the number that they stand for. -/
theorem toBytes_ofBytes (bs : List UInt8) : toBytes bs.length (ofBytes bs) = bs := by
  induction bs using List.reverseRecOn with
  | nil => rfl
  | append_singleton bs b ih =>
    have hb := b.toNat_lt
    have hhigh : (256 * ofBytes bs + b.toNat) / 256 = ofBytes bs := by omega
    have hlow : UInt8.ofNat (256 * ofBytes bs + b.toNat) = b := by
      rw [← UInt8.toNat_inj, UInt8.toNat_ofNat']
      omega
    rw [List.length_append, List.length_singleton, toBytes, ofBytes_concat, hhigh, hlow, ih]

theorem head?_toBytes (width n : Nat) :
    (toBytes (width + 1) n).head? = some (UInt8.ofNat (n / 256 ^ width)) := by
  induction width generalizing n with
  | zero => simp [toBytes]
  | succ width ih =>
    rw [toBytes, List.head?_append, ih, Nat.div_div_eq_div_mul, ← Nat.pow_succ']
    rfl

end BigEndian

namespace RsaSignature

/-! ## 2. Powers -/

/-- **Powers modulo a number**, for an exponent within its bits. -/
theorem powerMod_eq {modulus bits base exponent : Nat} (h : exponent < 2 ^ bits) :
    powerMod modulus bits base exponent = base ^ exponent % modulus := by
  induction bits generalizing base exponent with
  | zero =>
    rw [Nat.pow_zero] at h
    rw [powerMod, Nat.lt_one_iff.mp h, Nat.pow_zero]
  | succ bits ih =>
    rw [Nat.pow_succ] at h
    have hhalf : powerMod modulus bits (base * base % modulus) (exponent / 2) =
        base ^ (2 * (exponent / 2)) % modulus := by
      rw [ih (by omega), ← Nat.pow_mod, ← Nat.pow_two, ← Nat.pow_mul]
    rw [powerMod, hhalf]
    split
    · rename_i hodd
      have hexp : exponent = 2 * (exponent / 2) + 1 := by omega
      calc
        base * (base ^ (2 * (exponent / 2)) % modulus) % modulus
            = base ^ (2 * (exponent / 2) + 1) % modulus := by rw [Nat.mul_mod_mod, Nat.pow_succ']
        _ = base ^ exponent % modulus := by rw [← hexp]
    · rename_i heven
      have hexp : exponent = 2 * (exponent / 2) := by omega
      rw [← hexp]

/-! ## 3. A key for a message -/

/-- The number that the padded digest of a message stands for, in a key of 256 bytes. -/
def paddedNumber (message : List UInt8) : Nat := BigEndian.ofBytes (padded 256 message)

theorem length_padded {width : Nat} (h : 54 ≤ width) (message : List UInt8) :
    (padded width message).length = width := by
  have hmark : digestMark.length = 19 := rfl
  simp only [padded, List.length_append, List.length_cons, List.length_replicate, hmark,
    Sha256.length_digest]
  omega

theorem toBytes_paddedNumber (message : List UInt8) :
    BigEndian.toBytes 256 (paddedNumber message) = padded 256 message := by
  have h := BigEndian.toBytes_ofBytes (padded 256 message)
  rwa [length_padded (by decide)] at h

theorem exists_padded (width : Nat) (message : List UInt8) :
    ∃ rest, padded width message = [0, 1] ++ rest := by
  simp [padded]

/-- The padding starts with a zero and a one. -/
theorem paddedNumber_lt (message : List UInt8) : paddedNumber message < 2 * 256 ^ 254 := by
  obtain ⟨rest, hrest⟩ := exists_padded 256 message
  have hlength : (padded 256 message).length = 256 := length_padded (by decide) message
  rw [hrest, List.length_append] at hlength
  have hlong : rest.length = 254 := Nat.add_left_cancel hlength
  have hfront : BigEndian.ofBytes [0, 1] = 1 := by decide
  have hlt := BigEndian.ofBytes_lt rest
  rw [hlong] at hlt
  rw [paddedNumber, hrest, BigEndian.ofBytes_append, hlong, hfront]
  omega

/-- The number whose cube signs a message: one of two, so that the modulus becomes odd. -/
def root (message : List UInt8) : Nat := 3 * 2 ^ 681 + (paddedNumber message + 1) % 2

/-- The modulus under which that cube is the padded message. -/
def modulusFor (message : List UInt8) : Nat := root message ^ 3 - paddedNumber message

/-- A key made for a message. -/
def keyFor (message : List UInt8) : PublicKey :=
  { modulus := BigEndian.toBytes 256 (modulusFor message), exponent := [3] }

/-- The signature of the message under that key. -/
def signatureFor (message : List UInt8) : List UInt8 := BigEndian.toBytes 256 (root message)

theorem root_bounds (message : List UInt8) :
    256 ^ 255 + 2 * 256 ^ 254 ≤ root message ^ 3 ∧ root message ^ 3 < 256 ^ 256 := by
  have hlow : 3 * 2 ^ 681 ≤ root message := Nat.le_add_right _ _
  have hhigh : root message ≤ 3 * 2 ^ 681 + 1 := by
    rw [root]
    omega
  constructor
  · exact le_trans (by decide +kernel) (Nat.pow_le_pow_left hlow 3)
  · exact lt_of_le_of_lt (Nat.pow_le_pow_left hhigh 3) (by decide +kernel)

/-- The modulus fills its 256 bytes. -/
theorem modulusFor_bounds (message : List UInt8) :
    256 ^ 255 ≤ modulusFor message ∧ modulusFor message < 256 ^ 256 := by
  have hpadded := paddedNumber_lt message
  obtain ⟨hlow, hhigh⟩ := root_bounds message
  rw [modulusFor]
  omega

theorem modulusFor_mod_two (message : List UInt8) : modulusFor message % 2 = 1 := by
  have hroot : root message % 2 = (paddedNumber message + 1) % 2 := by
    rw [root]
    omega
  have hcube : root message ^ 3 % 2 = root message % 2 := by
    rcases Nat.mod_two_eq_zero_or_one (root message) with h | h <;> simp [Nat.pow_mod, h]
  have hpadded := paddedNumber_lt message
  have hlow := (root_bounds message).1
  rw [modulusFor]
  omega

theorem isOdd_toBytes {width n : Nat} (hlow : 256 ^ width ≤ n) (hhigh : n < 256 ^ (width + 1))
    (hodd : n % 2 = 1) : isOdd (BigEndian.toBytes (width + 1) n) = true := by
  have hpos : 0 < 256 ^ width := Nat.pow_pos (by decide)
  have htop : 1 ≤ n / 256 ^ width ∧ n / 256 ^ width < 256 := by
    rw [Nat.pow_succ'] at hhigh
    exact ⟨(Nat.one_le_div_iff hpos).mpr hlow, (Nat.div_lt_iff_lt_mul hpos).mpr hhigh⟩
  have hlast : (BigEndian.toBytes (width + 1) n).getLast? = some (UInt8.ofNat n) :=
    List.getLast?_concat
  rw [isOdd, BigEndian.head?_toBytes, hlast, Option.any_some, Option.any_some, Bool.and_eq_true,
    bne_iff_ne, beq_iff_eq, ne_eq, ← UInt8.toNat_inj, ← UInt8.toNat_inj, UInt8.toNat_mod,
    UInt8.toNat_ofNat', UInt8.toNat_ofNat']
  simp only [UInt8.reduceToNat]
  omega

theorem isUsable_keyFor (message : List UInt8) : (keyFor message).isUsable = true := by
  obtain ⟨hlow, hhigh⟩ := modulusFor_bounds message
  have hmodulus := isOdd_toBytes hlow hhigh (modulusFor_mod_two message)
  have hexponent : isOdd [3] = true ∧ BigEndian.ofBytes [3] = 3 := by decide
  simp [PublicKey.isUsable, keyFor, hexponent, hmodulus]

/-- **Every message has a key under which it is signed.** -/
theorem verify_keyFor (message : List UInt8) :
    verify (keyFor message) message (signatureFor message) = true := by
  obtain ⟨hlow, hhigh⟩ := modulusFor_bounds message
  have hpadded := paddedNumber_lt message
  have hcube : root message ^ 3 = modulusFor message + paddedNumber message := by
    have := (root_bounds message).1
    rw [modulusFor]
    omega
  have hroot : root message < 256 ^ 255 := by
    rw [root]
    omega
  have hmodulus : BigEndian.ofBytes (keyFor message).modulus = modulusFor message :=
    BigEndian.ofBytes_toBytes hhigh
  have hsignature : BigEndian.ofBytes (signatureFor message) = root message :=
    BigEndian.ofBytes_toBytes (by omega)
  have hlength : (keyFor message).modulus.length = 256 := BigEndian.length_toBytes _ _
  have hexponent : BigEndian.ofBytes (keyFor message).exponent = 3 := rfl
  have hpower : powerMod (modulusFor message) 33 (root message) 3 = paddedNumber message := by
    rw [powerMod_eq (by decide), hcube, Nat.add_mod_left]
    exact Nat.mod_eq_of_lt (by omega)
  have hpos : 0 < root message := by
    rw [root]
    omega
  rw [verify, hmodulus, hsignature, hlength, hexponent, hpower, toBytes_paddedNumber,
    isUsable_keyFor]
  simp [signatureFor, hpos]
  omega

end RsaSignature

end LoginGate.Cipher
