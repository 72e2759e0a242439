/-
# Strings are read back

The inside of a written string is found between its quotes (`stringBody_escaped`), stands for the
text that was written (`text?_escaped`) and can be passed over (`isPassableText_escaped`).  All three
are shown for one character first.  A character is
written as an escape of one letter, as an escape of four digits, or as itself; in the last case none
of its bytes is a quote, a backslash or a control byte (`ordinary_of_mem`), and reading passes over
them.
-/
import LoginGate.Json.Passable
import LoginGate.Json.Tree
import LoginGate.Json.Writer
import LoginGate.Proofs.Text.Utf8

namespace LoginGate.Json

open Text (Utf8.encode)

/-- The bytes of a text between its quotes. -/
def escaped (s : String) : List UInt8 := Utf8.encode (s.toList.flatMap escapeChar)

/-! ## 1. Ordinary bytes -/

/-- A byte that stands for itself inside a string. -/
def IsOrdinary (b : UInt8) : Prop := b ≠ 0x22 ∧ b ≠ 0x5C ∧ 0x20 ≤ b

theorem stringBody_ordinary {bs : List UInt8} (h : ∀ b ∈ bs, IsOrdinary b)
    (taken rest : List UInt8) :
    Tree.stringBody taken (bs ++ rest) = Tree.stringBody (bs.reverse ++ taken) rest := by
  induction bs generalizing taken with
  | nil => rfl
  | cons b bs ih =>
    obtain ⟨⟨hquote, hbackslash, hcontrol⟩, hbs⟩ := List.forall_mem_cons.mp h
    have hlow : ¬ b < 0x20 := UInt8.not_lt.mpr hcontrol
    have hstep : Tree.stringBody taken (b :: (bs ++ rest)) =
        Tree.stringBody (b :: taken) (bs ++ rest) := by
      simp [Tree.stringBody, hbackslash, hlow]
    rw [List.cons_append, hstep, ih hbs, List.reverse_cons, List.append_assoc,
      List.singleton_append]

theorem unescape?_ordinary {bs : List UInt8} (h : ∀ b ∈ bs, IsOrdinary b) (rest : List UInt8) :
    unescape? (bs ++ rest) = (unescape? rest).map (bs ++ ·) := by
  induction bs with
  | nil => simp
  | cons b bs ih =>
    obtain ⟨⟨-, hbackslash, -⟩, hbs⟩ := List.forall_mem_cons.mp h
    have hstep : unescape? (b :: (bs ++ rest)) = (unescape? (bs ++ rest)).map (b :: ·) := by
      simp [unescape?, hbackslash]
    rw [List.cons_append, hstep, ih hbs, Option.map_map]
    rfl

theorem isPassableText_ordinary {bs : List UInt8} (h : ∀ b ∈ bs, IsOrdinary b)
    (rest : List UInt8) : isPassableText (bs ++ rest) = isPassableText rest := by
  induction bs with
  | nil => rfl
  | cons b bs ih =>
    obtain ⟨⟨-, hbackslash, -⟩, hbs⟩ := List.forall_mem_cons.mp h
    have hstep : isPassableText (b :: (bs ++ rest)) = isPassableText (bs ++ rest) := by
      simp [isPassableText, hbackslash]
    rw [List.cons_append, hstep, ih hbs]

/-! ## 2. One character -/

/-- The ways to write a character. -/
inductive Written (c : Char) : Prop where
  /-- A backslash and a letter. -/
  | letter (e : UInt8) (he : Tree.isEscape e = true) (hu : e ≠ 0x75)
      (hbyte : String.utf8EncodeChar c = [escapedByte e])
      (hwritten : Utf8.encode (escapeChar c) = [0x5C, e])
  /-- A backslash and the number of the character in four digits. -/
  | digits (high low : UInt8) (hhigh : Tree.isHex high = true) (hlow : Tree.isHex low = true)
      (hunit : hexUnit 0x30 0x30 high low = c.toNat) (hcontrol : c.toNat < 0x20)
      (hwritten : Utf8.encode (escapeChar c) = [0x5C, 0x75, 0x30, 0x30, high, low])
  /-- The character itself. -/
  | plain (hordinary : ∀ b ∈ String.utf8EncodeChar c, IsOrdinary b)
      (hwritten : Utf8.encode (escapeChar c) = String.utf8EncodeChar c)

theorem hexDigit_spec : ∀ n < 32,
    (hexDigit n).toNat < 0x80 ∧ Tree.isHex (UInt8.ofNat (hexDigit n).toNat) = true ∧
      hexValue (UInt8.ofNat (hexDigit n).toNat) = n % 16 := by
  decide

/-- The bytes of a character that need not be escaped are ordinary. -/
theorem ordinary_of_mem {c : Char} (hquote : c ≠ '"') (hbackslash : c ≠ '\\')
    (hcontrol : 0x20 ≤ c.toNat) {b : UInt8} (hb : b ∈ String.utf8EncodeChar c) :
    IsOrdinary b := by
  refine ⟨?_, ?_, ?_⟩
  · rintro rfl
    exact hquote (Text.Utf8.eq_of_mem_utf8EncodeChar (d := '"') (by decide) hb)
  · rintro rfl
    exact hbackslash (Text.Utf8.eq_of_mem_utf8EncodeChar (d := '\\') (by decide) hb)
  · refine Nat.le_of_not_lt fun hlow => ?_
    have hlow : b.toNat < 0x20 := hlow
    have hn : (Char.ofNat b.toNat).toNat = b.toNat := Text.Utf8.toNat_charOfNat (by omega)
    have hc : c = Char.ofNat b.toNat := by
      refine Text.Utf8.eq_of_mem_utf8EncodeChar (by omega) ?_
      rw [hn, UInt8.ofNat_toNat]
      exact hb
    rw [hc, hn] at hcontrol
    omega

theorem written (c : Char) : Written c := by
  by_cases hquote : c = '"'
  · subst hquote
    exact .letter 0x22 (by decide) (by decide) (by decide) (by decide)
  by_cases hbackslash : c = '\\'
  · subst hbackslash
    exact .letter 0x5C (by decide) (by decide) (by decide) (by decide)
  by_cases hbackspace : c = '\x08'
  · subst hbackspace
    exact .letter 0x62 (by decide) (by decide) (by decide) (by decide)
  by_cases hfeed : c = '\x0c'
  · subst hfeed
    exact .letter 0x66 (by decide) (by decide) (by decide) (by decide)
  by_cases hline : c = '\n'
  · subst hline
    exact .letter 0x6E (by decide) (by decide) (by decide) (by decide)
  by_cases hreturn : c = '\r'
  · subst hreturn
    exact .letter 0x72 (by decide) (by decide) (by decide) (by decide)
  by_cases htab : c = '\t'
  · subst htab
    exact .letter 0x74 (by decide) (by decide) (by decide) (by decide)
  have hescape : escapeChar c =
      if c.toNat < 0x20 then ['\\', 'u', '0', '0', hexDigit (c.toNat / 16), hexDigit c.toNat]
      else [c] := by
    rw [escapeChar, if_neg hquote, if_neg hbackslash, if_neg hbackspace, if_neg hfeed, if_neg hline,
      if_neg hreturn, if_neg htab]
  by_cases hcontrol : c.toNat < 0x20
  · rw [if_pos hcontrol] at hescape
    obtain ⟨hhigh, hhex, hvalue⟩ := hexDigit_spec (c.toNat / 16) (by omega)
    obtain ⟨hlow, hhex', hvalue'⟩ := hexDigit_spec c.toNat hcontrol
    refine .digits (UInt8.ofNat (hexDigit (c.toNat / 16)).toNat)
      (UInt8.ofNat (hexDigit c.toNat).toNat) hhex hhex' ?_ hcontrol ?_
    · rw [hexUnit, hvalue, hvalue', show hexValue 0x30 = 0 from rfl]
      omega
    · rw [hescape]
      simp [Text.Utf8.utf8EncodeChar_of_lt hhigh, Text.Utf8.utf8EncodeChar_of_lt hlow,
        Text.Utf8.utf8EncodeChar_of_lt (show ('\\').toNat < 0x80 by decide),
        Text.Utf8.utf8EncodeChar_of_lt (show ('u').toNat < 0x80 by decide),
        Text.Utf8.utf8EncodeChar_of_lt (show ('0').toNat < 0x80 by decide)]
  · rw [if_neg hcontrol] at hescape
    refine .plain (fun b hb => ordinary_of_mem hquote hbackslash (by omega) hb) ?_
    rw [hescape, Text.Utf8.encode_cons, Text.Utf8.encode_nil, List.append_nil]

/-- The written form of a character is passed over on the way to the closing quote. -/
theorem stringBody_escapeChar (c : Char) (taken rest : List UInt8) :
    Tree.stringBody taken (Utf8.encode (escapeChar c) ++ rest) =
      Tree.stringBody ((Utf8.encode (escapeChar c)).reverse ++ taken) rest := by
  rcases written c with ⟨e, he, hu, -, hw⟩ | ⟨high, low, hhigh, hlow, -, -, hw⟩ | ⟨hordinary, hw⟩
  · rw [hw]
    simp [Tree.stringBody, he, hu]
  · rw [hw]
    simp [Tree.stringBody, hhigh, hlow, show Tree.isHex 0x30 = true from rfl]
  · rw [hw]
    exact stringBody_ordinary hordinary taken rest

/-- The written form of a character stands for the character. -/
theorem unescape?_escapeChar (c : Char) (rest : List UInt8) :
    unescape? (Utf8.encode (escapeChar c) ++ rest) =
      (unescape? rest).map (String.utf8EncodeChar c ++ ·) := by
  rcases written c with ⟨e, -, hu, hbyte, hw⟩ | ⟨high, low, -, -, hunit, hcontrol, hw⟩ |
    ⟨hordinary, hw⟩
  · rw [hw, hbyte]
    simp [unescape?, hu]
  · have hhigh : ¬ 0xD800 ≤ c.toNat := by omega
    have hlow : ¬ 0xDC00 ≤ c.toNat := by omega
    rw [hw, List.cons_append, unescape?.eq_def]
    simp [hunit, hhigh, hlow, Char.ofNat_toNat]
  · rw [hw]
    exact unescape?_ordinary hordinary rest

/-- The written form of a character is read to its end. -/
theorem isPassableText_escapeChar (c : Char) (rest : List UInt8) :
    isPassableText (Utf8.encode (escapeChar c) ++ rest) = isPassableText rest := by
  rcases written c with ⟨e, -, hu, -, hw⟩ | ⟨high, low, -, -, hunit, hcontrol, hw⟩ | ⟨hordinary, hw⟩
  · rw [hw]
    simp [isPassableText, hu]
  · have hhigh : ¬ 0xD800 ≤ c.toNat := by omega
    have hlow : ¬ 0xDC00 ≤ c.toNat := by omega
    rw [hw, List.cons_append, isPassableText.eq_def]
    simp [hunit, hhigh, hlow]
  · rw [hw]
    exact isPassableText_ordinary hordinary rest

/-! ## 3. Strings -/

/-- **The inside of a written string** is what stands between its quotes. -/
theorem stringBody_escaped (s : String) (rest : List UInt8) :
    Tree.stringBody [] (escaped s ++ 0x22 :: rest) = some (escaped s, rest) := by
  have hall : ∀ (cs : List Char) (taken : List UInt8),
      Tree.stringBody taken (Utf8.encode (cs.flatMap escapeChar) ++ 0x22 :: rest) =
        some (taken.reverse ++ Utf8.encode (cs.flatMap escapeChar), rest) := by
    intro cs
    induction cs with
    | nil =>
      intro taken
      simp [Tree.stringBody]
    | cons c cs ih =>
      intro taken
      rw [List.flatMap_cons, Text.Utf8.encode_append, List.append_assoc, stringBody_escapeChar, ih]
      simp
  exact hall s.toList []

/-- **A written string stands for its text.** -/
theorem text?_escaped (s : String) : text? (escaped s) = some s := by
  have hbytes : ∀ cs : List Char,
      unescape? (Utf8.encode (cs.flatMap escapeChar)) = some (Utf8.encode cs) := by
    intro cs
    induction cs with
    | nil => rfl
    | cons c cs ih =>
      rw [List.flatMap_cons, Text.Utf8.encode_append, unescape?_escapeChar, ih, Option.map_some,
        Text.Utf8.encode_cons]
  rw [text?, escaped, hbytes]
  simp [Text.Utf8.decode?_eq_some_iff.mpr rfl]

/-- **A written string is read to its end** where it is passed over. -/
theorem isPassableText_escaped (s : String) : isPassableText (escaped s) = true := by
  have hall : ∀ cs : List Char, isPassableText (Utf8.encode (cs.flatMap escapeChar)) = true := by
    intro cs
    induction cs with
    | nil => rfl
    | cons c cs ih =>
      rw [List.flatMap_cons, Text.Utf8.encode_append, isPassableText_escapeChar, ih]
  exact hall s.toList

end LoginGate.Json
