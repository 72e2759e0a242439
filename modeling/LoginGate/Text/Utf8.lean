/-
# UTF-8

Characters are written as one to four bytes (`encode`).  Reading comes in two forms over one reader
`scalars`: `decode?` refuses a list that holds any ill-formed sequence, and `decodeLossy` puts the
replacement character for each ill-formed sequence, where such a sequence is the longest beginning
of a well-formed one and at least one byte.
-/

namespace LoginGate.Text.Utf8

/-! ## 1. Writing -/

/-- The bytes of a list of characters. -/
def encode (cs : List Char) : List UInt8 :=
  cs.flatMap String.utf8EncodeChar

/-- The bytes of a string. -/
def bytes (s : String) : List UInt8 :=
  s.toUTF8.toList

/-! ## 2. Reading -/

/-- Continuation bytes are `10xxxxxx`. -/
def isContinuation (b : UInt8) : Bool :=
  0x80 ≤ b && b ≤ 0xBF

/-- The range of second bytes that may follow a leading byte of a sequence of two to four bytes:
overlong forms, surrogates and values above U+10FFFF are cut off here. -/
def secondRange (lead : UInt8) : UInt8 × UInt8 :=
  if lead == 0xE0 then (0xA0, 0xBF)
  else if lead == 0xED then (0x80, 0x9F)
  else if lead == 0xF0 then (0x90, 0xBF)
  else if lead == 0xF4 then (0x80, 0x8F)
  else (0x80, 0xBF)

/-- How many bytes follow a leading byte; nothing for a byte that leads no sequence. -/
def trailing (lead : UInt8) : Option Nat :=
  if lead < 0x80 then some 0
  else if 0xC2 ≤ lead && lead ≤ 0xDF then some 1
  else if 0xE0 ≤ lead && lead ≤ 0xEF then some 2
  else if 0xF0 ≤ lead && lead ≤ 0xF4 then some 3
  else none

/-- Reads up to `n` continuation bytes into the value; nothing when one is missing.  The rest that
is returned starts at the first byte that does not belong to the sequence. -/
def continuations (value : Nat) : Nat → List UInt8 → Option Nat × List UInt8
  | 0, bs => (some value, bs)
  | _ + 1, [] => (none, [])
  | n + 1, b :: bs =>
    if isContinuation b then continuations (value * 64 + (b.toNat - 0x80)) n bs
    else (none, b :: bs)

theorem length_continuations (value n : Nat) (bs : List UInt8) :
    (continuations value n bs).2.length ≤ bs.length := by
  induction n generalizing value bs with
  | zero => simp [continuations]
  | succ n ih =>
    cases bs with
    | nil => simp [continuations]
    | cons b bs =>
      simp only [continuations]
      split
      · exact Nat.le_succ_of_le (ih _ _)
      · exact Nat.le_refl _

/-- Reads the sequence that a byte leads: its character, or nothing when it is ill-formed, and the
bytes after it. -/
def sequence (lead : UInt8) (bs : List UInt8) : Option Char × List UInt8 :=
  match trailing lead with
  | none => (none, bs)
  | some 0 => (some (Char.ofNat lead.toNat), bs)
  | some (n + 1) =>
    match bs with
    | [] => (none, [])
    | b :: rest =>
      let range := secondRange lead
      if range.1 ≤ b && b ≤ range.2 then
        let high := lead.toNat % (if n = 0 then 32 else if n = 1 then 16 else 8)
        let (value, rest) := continuations (high * 64 + (b.toNat - 0x80)) n rest
        (value.map Char.ofNat, rest)
      else (none, b :: rest)

theorem length_sequence (lead : UInt8) (bs : List UInt8) :
    (sequence lead bs).2.length ≤ bs.length := by
  unfold sequence
  split
  · simp
  · simp
  · split
    · simp
    · simp only
      split
      · exact Nat.le_succ_of_le (length_continuations _ _ _)
      · simp

/-- The characters of a list of bytes, with nothing in the place of each ill-formed sequence. -/
def scalars : List UInt8 → List (Option Char)
  | [] => []
  | b :: bs => (sequence b bs).1 :: scalars (sequence b bs).2
termination_by bs => bs.length
decreasing_by exact Nat.lt_succ_of_le (length_sequence b bs)

/-- The character that stands for an ill-formed sequence. -/
def replacement : Char := '\uFFFD'

/-- The characters of a list of bytes, if all of it is well-formed. -/
def decode? (bs : List UInt8) : Option (List Char) :=
  (scalars bs).mapM id

/-- The characters of a list of bytes, each ill-formed sequence read as the replacement character.
-/
def decodeLossy (bs : List UInt8) : List Char :=
  (scalars bs).map (·.getD replacement)

@[simp] theorem scalars_nil : scalars [] = [] := by
  simp [scalars]

theorem scalars_cons (b : UInt8) (bs : List UInt8) :
    scalars (b :: bs) = (sequence b bs).1 :: scalars (sequence b bs).2 := by
  simp [scalars]

end LoginGate.Text.Utf8
