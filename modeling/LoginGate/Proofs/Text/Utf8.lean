/-
# UTF-8 is read back

Reading undoes writing: the characters of the bytes of a list of characters are the list
(`scalars_encode`, `decodeLossy_encode`).  The argument is about one character
(`sequence_scalarBytes`): its first byte says how many follow, the second byte is in the range that
the first one leaves open, and the six low bits of each further byte make up the value again.

Nothing else is read without loss: bytes that make characters are the bytes that these characters
are written with (`decode?_eq_some_iff`).  Here the range of the second byte keeps the value from
being one that is written with fewer bytes, or no character at all
(`exists_scalarBytes_of_sequence`).

A character below 128 is written as one byte that occurs in the writing of no other character, so a
text can be split at such a character before or after it is written (`splitAt_encode`,
`cutFirst_encode`).
-/
import Mathlib.Tactic.SplitIfs
import LoginGate.Proofs.Text.Split
import LoginGate.Text.Utf8

namespace LoginGate.Text.Utf8

/-! ## 1. The bytes of a string -/

theorem toList_loop_eq (bs : ByteArray) (i : Nat) (r : List UInt8) :
    ByteArray.toList.loop bs i r = r.reverse ++ bs.data.toList.drop i := by
  fun_induction ByteArray.toList.loop bs i r with
  | case1 i r h ih =>
    have hi : i < bs.data.toList.length := by simpa using h
    rw [ih, List.drop_eq_getElem_cons hi]
    simp [ByteArray.get!, h]
  | case2 i r h =>
    rw [List.drop_eq_nil_of_le (by simpa using Nat.le_of_not_lt h)]
    simp

/-- The bytes of a string are those of its characters. -/
theorem bytes_eq_encode (s : String) : bytes s = encode s.toList := by
  have h : s.toUTF8 = s.toList.utf8Encode := String.utf8Encode_toList.symm
  rw [bytes, h, ByteArray.toList, toList_loop_eq]
  simp [List.utf8Encode, encode]

@[simp] theorem encode_nil : encode [] = [] := rfl

@[simp] theorem encode_cons (c : Char) (cs : List Char) :
    encode (c :: cs) = String.utf8EncodeChar c ++ encode cs := List.flatMap_cons

@[simp] theorem encode_append (cs ds : List Char) : encode (cs ++ ds) = encode cs ++ encode ds :=
  List.flatMap_append

/-! ## 2. Bytes by their values -/

theorem toNat_ofNat {n : Nat} (h : n < 256) : (UInt8.ofNat n).toNat = n :=
  UInt8.toNat_ofNat_of_lt' h

theorem ofNat_eq_of_toNat {n : Nat} {b : UInt8} (h : n = b.toNat) : UInt8.ofNat n = b := by
  rw [h, UInt8.ofNat_toNat]

theorem trailing_ofNat {n : Nat} (h : n < 256) :
    trailing (UInt8.ofNat n) =
      if n < 0x80 then some 0
      else if 0xC2 ≤ n ∧ n ≤ 0xDF then some 1
      else if 0xE0 ≤ n ∧ n ≤ 0xEF then some 2
      else if 0xF0 ≤ n ∧ n ≤ 0xF4 then some 3
      else none := by
  simp only [trailing, UInt8.lt_iff_toNat_lt, UInt8.le_iff_toNat_le, toNat_ofNat h,
    Bool.and_eq_true, decide_eq_true_eq, UInt8.reduceToNat]

theorem secondRange_ofNat {n : Nat} (h : n < 256) :
    secondRange (UInt8.ofNat n) =
      if n = 0xE0 then (0xA0, 0xBF)
      else if n = 0xED then (0x80, 0x9F)
      else if n = 0xF0 then (0x90, 0xBF)
      else if n = 0xF4 then (0x80, 0x8F)
      else (0x80, 0xBF) := by
  simp only [secondRange, beq_iff_eq, ← UInt8.toNat_inj, toNat_ofNat h, UInt8.reduceToNat]

/-- A continuation byte adds its six low bits to the value. -/
theorem continuations_cons {bits n value : Nat} (h : bits < 64) (bs : List UInt8) :
    continuations value (n + 1) (UInt8.ofNat (bits + 0x80) :: bs) =
      continuations (value * 64 + bits) n bs := by
  have hc : isContinuation (UInt8.ofNat (bits + 0x80)) = true := by
    simp only [isContinuation, UInt8.le_iff_toNat_le, toNat_ofNat (show bits + 0x80 < 256 by omega),
      Bool.and_eq_true, decide_eq_true_eq, UInt8.reduceToNat]
    omega
  rw [continuations, if_pos hc, toNat_ofNat (by omega), Nat.add_sub_cancel]

/-! ## 3. One character -/

theorem sequence_one {v : Nat} (h : v ≤ 0x7F) (bs : List UInt8) :
    sequence (UInt8.ofNat v) bs = (some (Char.ofNat v), bs) := by
  have ht : trailing (UInt8.ofNat v) = some 0 := by
    rw [trailing_ofNat (by omega), if_pos (by omega)]
  simp only [sequence, ht, toNat_ofNat (show v < 256 by omega)]

/-- A byte that leads a sequence and a second byte in its range: overlong forms, surrogates and
values above U+10FFFF excepted. -/
theorem sequence_cons {lead bits n : Nat} (bs : List UInt8) (hl : lead < 256) (hs : bits < 64)
    (ht : trailing (UInt8.ofNat lead) = some (n + 1))
    (overlong : lead = 0xE0 → 0x20 ≤ bits) (surrogate : lead = 0xED → bits < 0x20)
    (overlong' : lead = 0xF0 → 0x10 ≤ bits) (beyond : lead = 0xF4 → bits < 0x10) :
    sequence (UInt8.ofNat lead) (UInt8.ofNat (bits + 0x80) :: bs) =
      ((continuations (lead % (if n = 0 then 32 else if n = 1 then 16 else 8) * 64 + bits) n
          bs).1.map Char.ofNat,
        (continuations (lead % (if n = 0 then 32 else if n = 1 then 16 else 8) * 64 + bits) n
          bs).2) := by
  have hb : bits + 0x80 < 256 := by omega
  have hr : ((secondRange (UInt8.ofNat lead)).1 ≤ UInt8.ofNat (bits + 0x80) &&
      UInt8.ofNat (bits + 0x80) ≤ (secondRange (UInt8.ofNat lead)).2) = true := by
    rw [secondRange_ofNat hl]
    simp only [UInt8.le_iff_toNat_le, toNat_ofNat hb, Bool.and_eq_true, decide_eq_true_eq]
    split_ifs <;> simp only [UInt8.reduceToNat] <;> omega
  simp only [sequence, ht, hr, if_true, toNat_ofNat hl, toNat_ofNat hb, Nat.add_sub_cancel]

/-- The bytes of a scalar value. -/
def scalarBytes (v : Nat) : List UInt8 :=
  if v ≤ 0x7F then [UInt8.ofNat v]
  else if v ≤ 0x7FF then [UInt8.ofNat (v / 64 % 32 + 0xC0), UInt8.ofNat (v % 64 + 0x80)]
  else if v ≤ 0xFFFF then
    [UInt8.ofNat (v / 4096 % 16 + 0xE0), UInt8.ofNat (v / 64 % 64 + 0x80),
      UInt8.ofNat (v % 64 + 0x80)]
  else
    [UInt8.ofNat (v / 262144 % 8 + 0xF0), UInt8.ofNat (v / 4096 % 64 + 0x80),
      UInt8.ofNat (v / 64 % 64 + 0x80), UInt8.ofNat (v % 64 + 0x80)]

theorem utf8EncodeChar_eq (c : Char) : String.utf8EncodeChar c = scalarBytes c.toNat := rfl

/-- The bytes of a scalar value are read as one sequence, whatever follows them. -/
theorem sequence_scalarBytes {v : Nat} (hv : v < 0xD800 ∨ 0xDFFF < v ∧ v < 0x110000)
    (bs : List UInt8) :
    ∃ lead rest, scalarBytes v = lead :: rest ∧
      sequence lead (rest ++ bs) = (some (Char.ofNat v), bs) := by
  unfold scalarBytes
  by_cases h1 : v ≤ 0x7F
  · exact ⟨_, _, if_pos h1, sequence_one h1 bs⟩
  rw [if_neg h1]
  by_cases h2 : v ≤ 0x7FF
  · refine ⟨_, _, if_pos h2, ?_⟩
    have ht : trailing (UInt8.ofNat (v / 64 % 32 + 0xC0)) = some (0 + 1) := by
      rw [trailing_ofNat (by omega), if_neg (by omega), if_pos (by omega)]
    rw [List.cons_append, sequence_cons _ (by omega) (by omega) ht (by omega) (by omega) (by omega)
      (by omega), if_pos rfl]
    simp only [continuations, List.nil_append, Option.map_some, Prod.mk.injEq, and_true]
    congr 2
    omega
  rw [if_neg h2]
  by_cases h3 : v ≤ 0xFFFF
  · refine ⟨_, _, if_pos h3, ?_⟩
    have ht : trailing (UInt8.ofNat (v / 4096 % 16 + 0xE0)) = some (1 + 1) := by
      rw [trailing_ofNat (by omega), if_neg (by omega), if_neg (by omega), if_pos (by omega)]
    rw [List.cons_append, sequence_cons _ (by omega) (by omega) ht (by omega) (by omega) (by omega)
      (by omega), if_neg (by decide), if_pos rfl, List.cons_append, continuations_cons (by omega)]
    simp only [continuations, List.nil_append, Option.map_some, Prod.mk.injEq, and_true]
    congr 2
    omega
  refine ⟨_, _, if_neg h3, ?_⟩
  have ht : trailing (UInt8.ofNat (v / 262144 % 8 + 0xF0)) = some (2 + 1) := by
    rw [trailing_ofNat (by omega), if_neg (by omega), if_neg (by omega), if_neg (by omega),
      if_pos (by omega)]
  rw [List.cons_append, sequence_cons _ (by omega) (by omega) ht (by omega) (by omega) (by omega)
    (by omega), if_neg (by decide), if_neg (by decide), List.cons_append,
    continuations_cons (by omega), List.cons_append, continuations_cons (by omega)]
  simp only [continuations, List.nil_append, Option.map_some, Prod.mk.injEq, and_true]
  congr 2
  omega

/-! ## 4. Reading undoes writing -/

/-- **A character is read back from its bytes**, whatever follows them. -/
theorem scalars_utf8EncodeChar (c : Char) (bs : List UInt8) :
    scalars (String.utf8EncodeChar c ++ bs) = some c :: scalars bs := by
  obtain ⟨lead, rest, he, hs⟩ := sequence_scalarBytes c.valid bs
  rw [utf8EncodeChar_eq, Char.toNat, he, List.cons_append, scalars_cons, hs]
  exact congrArg (some · :: scalars bs) (Char.ofNat_toNat c)

theorem scalars_encode (cs : List Char) : scalars (encode cs) = cs.map some := by
  induction cs with
  | nil => simp
  | cons c cs ih => rw [encode_cons, scalars_utf8EncodeChar, ih, List.map_cons]

theorem decodeLossy_encode (cs : List Char) : decodeLossy (encode cs) = cs := by
  rw [decodeLossy, scalars_encode, List.map_map]
  exact List.map_id cs

/-! ## 5. Writing undoes reading -/

theorem trailing_eq_some {lead : UInt8} {n : Nat} (h : trailing lead = some n) :
    n = 0 ∧ lead.toNat < 0x80 ∨
      n = 1 ∧ 0xC2 ≤ lead.toNat ∧ lead.toNat ≤ 0xDF ∨
      n = 2 ∧ 0xE0 ≤ lead.toNat ∧ lead.toNat ≤ 0xEF ∨
      n = 3 ∧ 0xF0 ≤ lead.toNat ∧ lead.toNat ≤ 0xF4 := by
  rw [← UInt8.ofNat_toNat (x := lead), trailing_ofNat lead.toNat_lt] at h
  split_ifs at h <;> simp only [Option.some.injEq] at h <;> omega

/-- A second byte in its range is a continuation byte, and one that leaves the value in bounds. -/
theorem toNat_of_secondRange {lead b : UInt8} (low : (secondRange lead).1 ≤ b)
    (high : b ≤ (secondRange lead).2) :
    0x80 ≤ b.toNat ∧ b.toNat ≤ 0xBF ∧ (lead.toNat = 0xE0 → 0xA0 ≤ b.toNat) ∧
      (lead.toNat = 0xED → b.toNat ≤ 0x9F) ∧ (lead.toNat = 0xF0 → 0x90 ≤ b.toNat) ∧
      (lead.toNat = 0xF4 → b.toNat ≤ 0x8F) := by
  rw [← UInt8.ofNat_toNat (x := lead), secondRange_ofNat lead.toNat_lt] at low high
  rw [UInt8.le_iff_toNat_le] at low high
  split_ifs at low high <;> simp only [UInt8.reduceToNat] at low high <;> omega

/-- What a run of continuation bytes adds to a value. -/
theorem continuations_eq_some {value n v : Nat} {bs rest : List UInt8}
    (h : continuations value (n + 1) bs = (some v, rest)) :
    ∃ b tail, bs = b :: tail ∧ 0x80 ≤ b.toNat ∧ b.toNat ≤ 0xBF ∧
      continuations (value * 64 + (b.toNat - 0x80)) n tail = (some v, rest) := by
  cases bs with
  | nil => simp [continuations] at h
  | cons b tail =>
    rw [continuations] at h
    split at h
    · rename_i hb
      simp only [isContinuation, UInt8.le_iff_toNat_le, Bool.and_eq_true, decide_eq_true_eq,
        UInt8.reduceToNat] at hb
      exact ⟨b, tail, rfl, hb.1, hb.2, h⟩
    · simp at h

/-- The parts of a sequence of more than one byte. -/
theorem exists_of_sequence {lead : UInt8} {n : Nat} {bs rest : List UInt8} {c : Char}
    (ht : trailing lead = some (n + 1)) (h : sequence lead bs = (some c, rest)) :
    ∃ b tail v, bs = b :: tail ∧ (secondRange lead).1 ≤ b ∧ b ≤ (secondRange lead).2 ∧
      continuations (lead.toNat % (if n = 0 then 32 else if n = 1 then 16 else 8) * 64 +
        (b.toNat - 0x80)) n tail = (some v, rest) ∧ Char.ofNat v = c := by
  rw [sequence] at h
  simp only [ht] at h
  cases bs with
  | nil => simp at h
  | cons b tail =>
    dsimp only at h
    split at h
    · rename_i hrange
      simp only [Bool.and_eq_true, decide_eq_true_eq] at hrange
      simp only [Prod.mk.injEq] at h
      obtain ⟨v, hv, hc⟩ := Option.map_eq_some_iff.mp h.1
      exact ⟨b, tail, v, rfl, hrange.1, hrange.2, Prod.ext hv h.2, hc⟩
    · simp at h

/-- A sequence that makes a character is the writing of a scalar value, and that of the character.
-/
theorem exists_scalarBytes_of_sequence {lead : UInt8} {bs rest : List UInt8} {c : Char}
    (h : sequence lead bs = (some c, rest)) :
    ∃ v, (v < 0xD800 ∨ 0xDFFF < v ∧ v < 0x110000) ∧ c = Char.ofNat v ∧
      lead :: bs = scalarBytes v ++ rest := by
  cases ht : trailing lead with
  | none => simp [sequence, ht] at h
  | some n =>
    rcases trailing_eq_some ht with ⟨rfl, high⟩ | ⟨rfl, low, high⟩ | ⟨rfl, low, high⟩ |
      ⟨rfl, low, high⟩
    · rw [sequence] at h
      simp only [ht, Prod.mk.injEq, Option.some.injEq] at h
      obtain ⟨rfl, rfl⟩ := h
      refine ⟨lead.toNat, by omega, rfl, ?_⟩
      rw [scalarBytes, if_pos (by omega), UInt8.ofNat_toNat, List.singleton_append]
    · obtain ⟨b, tail, v, rfl, hlow, hhigh, hv, rfl⟩ := exists_of_sequence ht h
      have hb := toNat_of_secondRange hlow hhigh
      simp only [continuations, if_true, Prod.mk.injEq, Option.some.injEq] at hv
      obtain ⟨hv, rfl⟩ := hv
      refine ⟨v, by omega, rfl, ?_⟩
      rw [scalarBytes, if_neg (by omega), if_pos (by omega),
        ofNat_eq_of_toNat (b := lead) (by omega), ofNat_eq_of_toNat (b := b) (by omega)]
      rfl
    · obtain ⟨b, tail, v, rfl, hlow, hhigh, hv, rfl⟩ := exists_of_sequence ht h
      have hb := toNat_of_secondRange hlow hhigh
      obtain ⟨d, tail, rfl, hd, hd', hv⟩ := continuations_eq_some hv
      simp only [continuations, Nat.one_ne_zero, if_false, if_true, Prod.mk.injEq,
        Option.some.injEq] at hv
      obtain ⟨hv, rfl⟩ := hv
      refine ⟨v, by omega, rfl, ?_⟩
      rw [scalarBytes, if_neg (by omega), if_neg (by omega), if_pos (by omega),
        ofNat_eq_of_toNat (b := lead) (by omega), ofNat_eq_of_toNat (b := b) (by omega),
        ofNat_eq_of_toNat (b := d) (by omega)]
      rfl
    · obtain ⟨b, tail, v, rfl, hlow, hhigh, hv, rfl⟩ := exists_of_sequence ht h
      have hb := toNat_of_secondRange hlow hhigh
      obtain ⟨d, tail, rfl, hd, hd', hv⟩ := continuations_eq_some hv
      obtain ⟨e, tail, rfl, he, he', hv⟩ := continuations_eq_some hv
      simp only [continuations, Nat.reduceEqDiff, if_false, Prod.mk.injEq, Option.some.injEq] at hv
      obtain ⟨hv, rfl⟩ := hv
      refine ⟨v, by omega, rfl, ?_⟩
      rw [scalarBytes, if_neg (by omega), if_neg (by omega), if_neg (by omega),
        ofNat_eq_of_toNat (b := lead) (by omega), ofNat_eq_of_toNat (b := b) (by omega),
        ofNat_eq_of_toNat (b := d) (by omega), ofNat_eq_of_toNat (b := e) (by omega)]
      rfl

theorem eq_of_sequence {lead : UInt8} {bs rest : List UInt8} {c : Char}
    (h : sequence lead bs = (some c, rest)) :
    lead :: bs = String.utf8EncodeChar c ++ rest := by
  obtain ⟨v, hv, rfl, he⟩ := exists_scalarBytes_of_sequence h
  have htoNat : (Char.ofNat v).toNat = v := by
    rw [Char.ofNat, dif_pos hv]
    rfl
  rw [he, utf8EncodeChar_eq, htoNat]

theorem eq_encode_of_scalars {cs : List Char} {bs : List UInt8} (h : scalars bs = cs.map some) :
    bs = encode cs := by
  induction cs generalizing bs with
  | nil =>
    cases bs with
    | nil => rfl
    | cons b bs => simp [scalars_cons] at h
  | cons c cs ih =>
    cases bs with
    | nil => simp at h
    | cons b bs =>
      rw [scalars_cons, List.map_cons, List.cons.injEq] at h
      rw [encode_cons, ← ih h.2]
      exact eq_of_sequence (Prod.ext h.1 rfl)

theorem mapM_id_eq_some_iff {os : List (Option Char)} {cs : List Char} :
    os.mapM id = some cs ↔ os = cs.map some := by
  induction os generalizing cs with
  | nil => cases cs <;> simp
  | cons o os ih =>
    cases o <;> cases cs <;> simp [List.mapM_cons, Option.bind_eq_some_iff, ih]
    exact and_comm

/-- **Bytes are read as the characters that they are the writing of**, and other bytes are refused.
-/
theorem decode?_eq_some_iff {bs : List UInt8} {cs : List Char} :
    decode? bs = some cs ↔ bs = encode cs := by
  rw [decode?, mapM_id_eq_some_iff]
  constructor
  · exact eq_encode_of_scalars
  · rintro rfl
    exact scalars_encode cs

/-! ## 6. Characters below 128 -/

theorem toNat_charOfNat {n : Nat} (h : n < 0x80) : (Char.ofNat n).toNat = n := by
  rw [Char.ofNat, dif_pos (Or.inl (by omega))]
  rfl

theorem utf8EncodeChar_of_lt {c : Char} (h : c.toNat < 0x80) :
    String.utf8EncodeChar c = [UInt8.ofNat c.toNat] := by
  rw [utf8EncodeChar_eq, scalarBytes, if_pos (by omega)]

/-- A byte below 128 occurs in the writing of its own character only. -/
theorem eq_of_mem_utf8EncodeChar {c d : Char} (hd : d.toNat < 0x80)
    (h : UInt8.ofNat d.toNat ∈ String.utf8EncodeChar c) : c = d := by
  have hv : c.toNat < 0x110000 := by
    have := c.valid
    simp only [UInt32.isValidChar, Nat.isValidChar] at this
    change c.toNat < 0xD800 ∨ 0xDFFF < c.toNat ∧ c.toNat < 0x110000 at this
    omega
  have hcd : c.toNat = d.toNat := by
    rw [utf8EncodeChar_eq, scalarBytes] at h
    split_ifs at h <;>
      simp only [List.mem_cons, List.not_mem_nil, or_false, ← UInt8.toNat_inj,
        toNat_ofNat (show d.toNat < 256 by omega)] at h
    · rw [toNat_ofNat (by omega)] at h
      exact h.symm
    all_goals
      repeat rw [toNat_ofNat (by omega)] at h
      omega
  rw [← Char.ofNat_toNat c, hcd, Char.ofNat_toNat]

theorem splitAt_encode {d : Char} (hd : d.toNat < 0x80) (cs : List Char) :
    splitAt (UInt8.ofNat d.toNat) (encode cs) = (splitAt d cs).map encode :=
  splitAt_flatMap (utf8EncodeChar_of_lt hd)
    (fun _ hne hm => hne (eq_of_mem_utf8EncodeChar hd hm)) cs

theorem cutFirst_encode {d : Char} (hd : d.toNat < 0x80) (cs : List Char) :
    cutFirst (UInt8.ofNat d.toNat) (encode cs) =
      (cutFirst d cs).map fun (a, b) => (encode a, encode b) :=
  cutFirst_flatMap (utf8EncodeChar_of_lt hd)
    (fun _ hne hm => hne (eq_of_mem_utf8EncodeChar hd hm)) cs

end LoginGate.Text.Utf8
