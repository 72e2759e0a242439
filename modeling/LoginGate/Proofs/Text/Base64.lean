/-
# Base64 has one written form

Reading undoes writing, and accepts nothing but what writing produces (`decodeUrl?_eq_some_iff`,
`decode?_eq_some_iff`).  Both forms rest on two facts: bytes and their groups of six bits make each
other up (`ofSextets?_eq_some_iff`), and so do groups and characters, as long as the last two
characters of the alphabet differ from the others (`mapM_sextet?_eq_some_iff`).

What is written holds neither a blank nor a dot, so it survives trimming and can stand between dots.
-/
import LoginGate.Proofs.Text.Blank
import LoginGate.Text.Base64

namespace LoginGate.Text.Base64

/-! ## 1. Groups of six bits -/

theorem toSextets_lt {bs : List UInt8} {n : Nat} (h : n ∈ toSextets bs) : n < 64 := by
  fun_induction toSextets bs with
  | case1 => simp at h
  | case2 a =>
    have ha := a.toNat_lt
    simp only [List.mem_cons, List.not_mem_nil, or_false] at h
    omega
  | case3 a b =>
    have ha := a.toNat_lt
    have hb := b.toNat_lt
    simp only [List.mem_cons, List.not_mem_nil, or_false] at h
    omega
  | case4 a b c rest ih =>
    have ha := a.toNat_lt
    have hb := b.toNat_lt
    have hc := c.toNat_lt
    simp only [List.mem_cons] at h
    rcases h with h | h | h | h | h
    · omega
    · omega
    · omega
    · omega
    · exact ih h

theorem ofSextets?_toSextets (bs : List UInt8) : ofSextets? (toSextets bs) = some bs := by
  fun_induction toSextets bs with
  | case1 => rfl
  | case2 a =>
    have ha := a.toNat_lt
    rw [ofSextets?, if_pos (by omega), Utf8.ofNat_eq_of_toNat (b := a) (by omega)]
  | case3 a b =>
    have ha := a.toNat_lt
    have hb := b.toNat_lt
    rw [ofSextets?, if_pos (by omega), Utf8.ofNat_eq_of_toNat (b := a) (by omega),
      Utf8.ofNat_eq_of_toNat (b := b) (by omega)]
  | case4 a b c rest ih =>
    have ha := a.toNat_lt
    have hb := b.toNat_lt
    have hc := c.toNat_lt
    rw [ofSextets?, ih, Option.map_some, Utf8.ofNat_eq_of_toNat (b := a) (by omega),
      Utf8.ofNat_eq_of_toNat (b := b) (by omega), Utf8.ofNat_eq_of_toNat (b := c) (by omega)]

theorem toSextets_of_ofSextets? {ns : List Nat} {bs : List UInt8} (hns : ∀ n ∈ ns, n < 64)
    (h : ofSextets? ns = some bs) : toSextets bs = ns := by
  fun_induction ofSextets? ns generalizing bs with
  | case1 =>
    cases h
    rfl
  | case2 => simp at h
  | case3 w x hx =>
    cases h
    have hw : w < 64 := hns w (by simp)
    have hx' : x < 64 := hns x (by simp)
    simp only [toSextets, Utf8.toNat_ofNat (show w * 4 + x / 16 < 256 by omega), List.cons.injEq,
      and_true]
    omega
  | case4 => simp at h
  | case5 w x y hy =>
    cases h
    have hw : w < 64 := hns w (by simp)
    have hx : x < 64 := hns x (by simp)
    have hy' : y < 64 := hns y (by simp)
    simp only [toSextets, Utf8.toNat_ofNat (show w * 4 + x / 16 < 256 by omega),
      Utf8.toNat_ofNat (show x % 16 * 16 + y / 4 < 256 by omega), List.cons.injEq, and_true]
    omega
  | case6 => simp at h
  | case7 w x y z rest ih =>
    obtain ⟨tail, htail, rfl⟩ := Option.map_eq_some_iff.mp h
    have hw : w < 64 := hns w (by simp)
    have hx : x < 64 := hns x (by simp)
    have hy : y < 64 := hns y (by simp)
    have hz : z < 64 := hns z (by simp)
    rw [toSextets, ih (fun n hn => hns n (by simp [hn])) htail]
    simp only [Utf8.toNat_ofNat (show w * 4 + x / 16 < 256 by omega),
      Utf8.toNat_ofNat (show x % 16 * 16 + y / 4 < 256 by omega),
      Utf8.toNat_ofNat (show y % 4 * 64 + z < 256 by omega), List.cons.injEq, and_true]
    omega

/-- Groups of six bits stand for the bytes that make them. -/
theorem ofSextets?_eq_some_iff {ns : List Nat} {bs : List UInt8} (hns : ∀ n ∈ ns, n < 64) :
    ofSextets? ns = some bs ↔ ns = toSextets bs := by
  constructor
  · intro h
    exact (toSextets_of_ofSextets? hns h).symm
  · rintro rfl
    exact ofSextets?_toSextets bs

/-! ## 2. Alphabets -/

namespace Alphabet

variable {alphabet : Alphabet}

/-- Each character of an alphabet is read as the bits that it is written for. -/
def IsProper (alphabet : Alphabet) : Prop :=
  ∀ n < 64, alphabet.sextet? (alphabet.char n) = some n

instance (alphabet : Alphabet) : Decidable alphabet.IsProper :=
  inferInstanceAs (Decidable (∀ n < 64, alphabet.sextet? (alphabet.char n) = some n))

/-- A character that is read stands for its bits. -/
theorem char_of_sextet? {c : Char} {n : Nat} (h : alphabet.sextet? c = some n) :
    n < 64 ∧ alphabet.char n = c := by
  have hle : ∀ d e : Char, d ≤ e ↔ d.toNat ≤ e.toNat := fun _ _ => Iff.rfl
  rw [sextet?] at h
  split_ifs at h with hupper hlower hdigit htwo hthree <;>
    simp only [Option.some.injEq, Bool.and_eq_true, decide_eq_true_eq, hle, Char.reduceToNat] at *
  · refine ⟨by omega, ?_⟩
    rw [char, if_pos (by omega), show n + 65 = c.toNat by omega, Char.ofNat_toNat]
  · refine ⟨by omega, ?_⟩
    rw [char, if_neg (by omega), if_pos (by omega), show n + 71 = c.toNat by omega,
      Char.ofNat_toNat]
  · refine ⟨by omega, ?_⟩
    rw [char, if_neg (by omega), if_neg (by omega), if_pos (by omega),
      show n - 4 = c.toNat by omega, Char.ofNat_toNat]
  · subst h
    exact ⟨by decide, htwo.symm⟩
  · subst h
    exact ⟨by decide, hthree.symm⟩

/-- The characters of an alphabet are read as the bits that they stand for, and no others. -/
theorem mapM_sextet?_eq_some_iff (hproper : alphabet.IsProper) {cs : List Char} {ns : List Nat} :
    cs.mapM alphabet.sextet? = some ns ↔ (∀ n ∈ ns, n < 64) ∧ cs = ns.map alphabet.char := by
  induction cs generalizing ns with
  | nil =>
    rw [List.mapM_nil]
    constructor
    · intro h
      cases h
      simp
    · rintro ⟨-, h⟩
      rw [List.map_eq_nil_iff.mp h.symm]
      rfl
  | cons c cs ih =>
    rw [List.mapM_cons]
    constructor
    · intro h
      obtain ⟨n, hn, h⟩ := Option.bind_eq_some_iff.mp h
      obtain ⟨rest, hrest, h⟩ := Option.bind_eq_some_iff.mp h
      cases h
      obtain ⟨hlt, rfl⟩ := char_of_sextet? hn
      obtain ⟨hall, rfl⟩ := ih.mp hrest
      exact ⟨List.forall_mem_cons.mpr ⟨hlt, hall⟩, rfl⟩
    · rintro ⟨hall, h⟩
      cases ns with
      | nil => simp at h
      | cons n ns =>
        obtain ⟨hn, hall⟩ := List.forall_mem_cons.mp hall
        rw [List.map_cons, List.cons.injEq] at h
        obtain ⟨rfl, hcs⟩ := h
        simp [hproper n hn, ih.mpr ⟨hall, hcs⟩]

/-- What is read from characters is what they were written for. -/
theorem bind_ofSextets?_eq_some_iff (hproper : alphabet.IsProper) {cs : List Char}
    {bs : List UInt8} : (cs.mapM alphabet.sextet?).bind ofSextets? = some bs ↔
      cs = (toSextets bs).map alphabet.char := by
  constructor
  · intro h
    obtain ⟨ns, hns, h⟩ := Option.bind_eq_some_iff.mp h
    obtain ⟨hall, hcs⟩ := (mapM_sextet?_eq_some_iff hproper).mp hns
    rw [hcs, (ofSextets?_eq_some_iff hall).mp h]
  · rintro rfl
    refine Option.bind_eq_some_iff.mpr ⟨toSextets bs, ?_, ofSextets?_toSextets bs⟩
    exact (mapM_sextet?_eq_some_iff hproper).mpr ⟨fun _ => toSextets_lt, rfl⟩

/-- A character that is not read is not written. -/
theorem not_mem_of_sextet?_eq_none (hproper : alphabet.IsProper) {c : Char}
    (hc : alphabet.sextet? c = none) (bs : List UInt8) :
    c ∉ (toSextets bs).map alphabet.char := by
  intro h
  obtain ⟨n, hn, rfl⟩ := List.mem_map.mp h
  rw [hproper n (toSextets_lt hn)] at hc
  cases hc

end Alphabet

theorem isProper_standard : standard.IsProper := by decide

theorem isProper_urlSafe : urlSafe.IsProper := by decide

/-! ## 3. The form for URLs -/

/-- **The form for URLs is read exactly as it is written.** -/
theorem decodeUrl?_eq_some_iff {cs : List Char} {bs : List UInt8} :
    decodeUrl? cs = some bs ↔ cs = encodeUrl bs :=
  Alphabet.bind_ofSextets?_eq_some_iff isProper_urlSafe

theorem dot_not_mem_encodeUrl (bs : List UInt8) : '.' ∉ encodeUrl bs :=
  Alphabet.not_mem_of_sextet?_eq_none isProper_urlSafe (by decide) bs

theorem isBlank_of_mem_encodeUrl {bs : List UInt8} {c : Char} (h : c ∈ encodeUrl bs) :
    isBlank c = false := by
  have hchars : ∀ n < 64, isBlank (urlSafe.char n) = false := by decide
  obtain ⟨n, hn, rfl⟩ := List.mem_map.mp h
  exact hchars n (toSextets_lt hn)

/-! ## 4. The padded form -/

theorem pad_not_mem (bs : List UInt8) : '=' ∉ (toSextets bs).map standard.char :=
  Alphabet.not_mem_of_sextet?_eq_none isProper_standard (by decide) bs

/-- **The padded form is read exactly as it is written.** -/
theorem decode?_eq_some_iff {cs : List Char} {bs : List UInt8} :
    decode? cs = some bs ↔ cs = encode bs := by
  have hopen : decode? cs =
      if cs.length = (dropEndWhile (· == '=') cs).length +
          paddingOf (dropEndWhile (· == '=') cs).length then
        ((dropEndWhile (· == '=') cs).mapM standard.sextet?).bind ofSextets?
      else none := rfl
  rw [hopen]
  constructor
  · intro h
    split at h
    · rename_i hlength
      have hbody := (Alphabet.bind_ofSextets?_eq_some_iff isProper_standard).mp h
      have hcs := eq_dropEndWhile_append '=' cs
      have hpad : (cs.reverse.takeWhile (· == '=')).length =
          paddingOf (dropEndWhile (· == '=') cs).length := by
        have hsum := congrArg List.length hcs
        rw [List.length_append, List.length_replicate] at hsum
        omega
      rw [encode, ← hbody, ← hpad]
      exact hcs
    · simp at h
  · rintro rfl
    have hbody : dropEndWhile (· == '=') (encode bs) = (toSextets bs).map standard.char :=
      dropEndWhile_append_replicate (pad_not_mem bs) _
    rw [hbody, if_pos (by rw [encode, List.length_append, List.length_replicate])]
    exact (Alphabet.bind_ofSextets?_eq_some_iff isProper_standard).mpr rfl

/-- What is written holds no blanks. -/
theorem trimChars_encode (bs : List UInt8) : trimChars (encode bs) = encode bs := by
  have hchars : ∀ n < 64, isBlank (standard.char n) = false := by decide
  refine trimChars_eq_self ?_
  intro c hc
  rcases List.mem_append.mp hc with hc | hc
  · obtain ⟨n, hn, rfl⟩ := List.mem_map.mp hc
    exact hchars n (toSextets_lt hn)
  · rw [List.eq_of_mem_replicate hc]
    decide

end LoginGate.Text.Base64
