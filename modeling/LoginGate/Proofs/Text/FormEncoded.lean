/-
# The form encoding is read back

What is written as a form-encoded name or value is read back as it was (`decode_encode`), and since
neither holds an ampersand or an equals sign, so is a written pair (`decodeSegment_writtenPair`).

A query string may be cut into its segments before it is turned into bytes: its pairs are those of
its segments, empty ones left out (`decodePairs_encode`).  That is how text that the program wrote
and text that it only passed on are read side by side.
-/
import LoginGate.Proofs.Text.Utf8
import LoginGate.Text.FormEncoded

namespace LoginGate.Text.FormEncoded

/-! ## 1. One byte -/

theorem hexValue?_hexDigit {n : Nat} (h : n < 16) :
    hexValue? (UInt8.ofNat (hexDigit n).toNat) = some n := by
  revert n
  decide

theorem hexDigit_lt {n : Nat} (h : n < 16) : (hexDigit n).toNat < 0x80 := by
  revert n
  decide

theorem hexDigit_ne {n : Nat} (h : n < 16) : hexDigit n ≠ '&' ∧ hexDigit n ≠ '=' := by
  revert n
  decide

/-- A byte is read back from its two digits. -/
theorem hexByte?_hexDigits (b : UInt8) :
    hexByte? (UInt8.ofNat (hexDigit (b.toNat / 16)).toNat)
      (UInt8.ofNat (hexDigit (b.toNat % 16)).toNat) = some b := by
  have hb : b.toNat < 256 := b.toNat_lt
  have he : 16 * (b.toNat / 16) + b.toNat % 16 = b.toNat := by omega
  rw [hexByte?, hexValue?_hexDigit (show b.toNat / 16 < 16 by omega),
    hexValue?_hexDigit (show b.toNat % 16 < 16 by omega)]
  simp only [Option.bind_eq_bind, Option.bind_some, he, UInt8.ofNat_toNat]

/-- Bytes that stand for themselves are below 128, and neither signs of the encoding nor
separators. -/
theorem isPlain_bounds {b : UInt8} (h : isPlain b = true) :
    b.toNat < 0x80 ∧ b ≠ 0x25 ∧ b ≠ 0x2B ∧ b ≠ 0x26 ∧ b ≠ 0x3D := by
  simp only [isPlain, Bool.or_eq_true, Bool.and_eq_true, decide_eq_true_eq, beq_iff_eq,
    UInt8.le_iff_toNat_le, ← UInt8.toNat_inj, UInt8.reduceToNat] at h
  simp only [ne_eq, ← UInt8.toNat_inj, UInt8.reduceToNat]
  omega

theorem decodeBytes_percent {a b byte : UInt8} (h : hexByte? a b = some byte) (rest : List UInt8) :
    decodeBytes (0x25 :: a :: b :: rest) = byte :: decodeBytes rest := by
  rw [decodeBytes, h]

theorem decodeBytes_plus (rest : List UInt8) :
    decodeBytes (0x2B :: rest) = 0x20 :: decodeBytes rest := by
  rw [decodeBytes]

theorem decodeBytes_other {b : UInt8} (hp : b ≠ 0x25) (hs : b ≠ 0x2B) (rest : List UInt8) :
    decodeBytes (b :: rest) = b :: decodeBytes rest := by
  rw [decodeBytes]
  · exact fun _ _ _ he => absurd he hp
  · exact hs

/-- **A byte is read back from its written form**, whatever follows. -/
theorem decodeBytes_encodeByte (b : UInt8) (rest : List UInt8) :
    decodeBytes (Utf8.encode (encodeByte b) ++ rest) = b :: decodeBytes rest := by
  unfold encodeByte
  split
  · rename_i h
    obtain ⟨hlt, hp, hs, -, -⟩ := isPlain_bounds h
    have hc : (Char.ofNat b.toNat).toNat = b.toNat := Utf8.toNat_charOfNat (by omega)
    rw [Utf8.encode_cons, Utf8.utf8EncodeChar_of_lt (by omega), hc, UInt8.ofNat_toNat]
    exact decodeBytes_other hp hs rest
  · split
    · rename_i h
      rw [eq_of_beq h]
      exact decodeBytes_plus rest
    · have hb : b.toNat < 256 := b.toNat_lt
      rw [Utf8.encode_cons, Utf8.encode_cons, Utf8.encode_cons,
        Utf8.utf8EncodeChar_of_lt (hexDigit_lt (show b.toNat / 16 < 16 by omega)),
        Utf8.utf8EncodeChar_of_lt (hexDigit_lt (show b.toNat % 16 < 16 by omega))]
      exact decodeBytes_percent (hexByte?_hexDigits b) rest

theorem separator_not_mem_encodeByte (b : UInt8) : '&' ∉ encodeByte b ∧ '=' ∉ encodeByte b := by
  unfold encodeByte
  split
  · rename_i h
    obtain ⟨hlt, -, -, hamp, heq⟩ := isPlain_bounds h
    have hne : ∀ d : Char, d = Char.ofNat b.toNat → UInt8.ofNat d.toNat = b := by
      rintro d rfl
      rw [Utf8.toNat_charOfNat (by omega), UInt8.ofNat_toNat]
    simp only [List.mem_singleton]
    exact ⟨fun h => hamp (hne _ h).symm, fun h => heq (hne _ h).symm⟩
  · split
    · decide
    · have hb : b.toNat < 256 := b.toNat_lt
      have h1 := hexDigit_ne (show b.toNat / 16 < 16 by omega)
      have h2 := hexDigit_ne (show b.toNat % 16 < 16 by omega)
      simp only [List.mem_cons, List.not_mem_nil, or_false, not_or]
      exact ⟨⟨by decide, h1.1.symm, h2.1.symm⟩, by decide, h1.2.symm, h2.2.symm⟩

/-! ## 2. Names and values -/

theorem decode_nil : decode [] = "" := by cbv

theorem decodeBytes_encode (bs : List UInt8) :
    decodeBytes (Utf8.encode (bs.flatMap encodeByte)) = bs := by
  induction bs with
  | nil => rw [List.flatMap_nil, Utf8.encode_nil, decodeBytes]
  | cons b bs ih => rw [List.flatMap_cons, Utf8.encode_append, decodeBytes_encodeByte, ih]

/-- **What is written is read back.** -/
theorem decode_encode (s : String) : decode (Utf8.encode (encode s)) = s := by
  rw [decode, encode, decodeBytes_encode, Utf8.bytes_eq_encode, Utf8.decodeLossy_encode,
    String.ofList_toList]

theorem separator_not_mem_encode (s : String) : '&' ∉ encode s ∧ '=' ∉ encode s := by
  simp only [encode, List.mem_flatMap, not_exists, not_and]
  exact ⟨fun b _ => (separator_not_mem_encodeByte b).1, fun b _ => (separator_not_mem_encodeByte b).2⟩

/-! ## 3. Pairs -/

/-- The written form of a pair. -/
def writtenPair (p : String × String) : List Char := encode p.1 ++ '=' :: encode p.2

theorem encodePairs_eq (pairs : List (String × String)) :
    encodePairs pairs = joinWith ['&'] (pairs.map writtenPair) := rfl

theorem writtenPair_ne_nil (p : String × String) : writtenPair p ≠ [] := by
  simp [writtenPair]

theorem filter_isEmpty_writtenPair (pairs : List (String × String)) :
    (pairs.map writtenPair).filter (!·.isEmpty) = pairs.map writtenPair := by
  refine List.filter_eq_self.mpr fun s hs => ?_
  obtain ⟨p, -, rfl⟩ := List.mem_map.mp hs
  simp [writtenPair_ne_nil p]

theorem ampersand_not_mem_writtenPair (p : String × String) : '&' ∉ writtenPair p := by
  simp [writtenPair, (separator_not_mem_encode p.1).1, (separator_not_mem_encode p.2).1]

/-- **A written pair is read back.** -/
theorem decodeSegment_writtenPair (p : String × String) :
    decodeSegment (Utf8.encode (writtenPair p)) = p := by
  have hcut : cutFirst 0x3D (Utf8.encode (writtenPair p)) =
      some (Utf8.encode (encode p.1), Utf8.encode (encode p.2)) := by
    have h := Utf8.cutFirst_encode (d := '=') (by decide) (writtenPair p)
    have hw : cutFirst '=' (writtenPair p) = some (encode p.1, encode p.2) := by
      rw [writtenPair, cutFirst_append _ (separator_not_mem_encode p.1).2]
      simp
    rw [hw] at h
    exact h
  rw [decodeSegment, hcut]
  exact Prod.ext (decode_encode p.1) (decode_encode p.2)

/-- **The pairs of a query string are those of its segments**, empty ones left out. -/
theorem decodePairs_encode (cs : List Char) :
    decodePairs (Utf8.encode cs) =
      ((splitAt '&' cs).filter (!·.isEmpty)).map fun s => decodeSegment (Utf8.encode s) := by
  have hsplit : splitAt 0x26 (Utf8.encode cs) = (splitAt '&' cs).map Utf8.encode :=
    Utf8.splitAt_encode (d := '&') (by decide) cs
  have hempty : ∀ s : List Char, (Utf8.encode s).isEmpty = s.isEmpty := by
    intro s
    cases s with
    | nil => rfl
    | cons c s =>
      simp [String.utf8EncodeChar_ne_nil]
  rw [decodePairs, hsplit, List.filter_map, List.map_map]
  simp only [Function.comp_def, hempty]

/-- **Segments with ampersands between them are read one by one**: nothing in a segment that holds no
ampersand is read with its neighbours. -/
theorem decodePairs_joinWith {segments : List (List Char)} (hne : ∀ s ∈ segments, s ≠ [])
    (hamp : ∀ s ∈ segments, '&' ∉ s) :
    decodePairs (Utf8.encode (joinWith ['&'] segments)) =
      segments.map fun s => decodeSegment (Utf8.encode s) := by
  rw [decodePairs_encode]
  cases segments with
  | nil => rfl
  | cons s rest =>
    rw [splitAt_joinWith (by simp) hamp, List.filter_eq_self.mpr]
    intro p hp
    simp [hne p hp]

end LoginGate.Text.FormEncoded
