/-
# Blank characters and trimming

Three classes of blanks occur: the Unicode property `White_Space`, by which names, secrets, tokens
and query strings are trimmed, the five ASCII blanks that make a provider's body count as empty, and
the two that separate words within a line of settings.  `trim` removes blanks of the first class
from both ends of a text.
-/

namespace LoginGate.Text

/-! ## 1. The classes -/

/-- The Unicode property `White_Space`. -/
def isBlank (c : Char) : Bool :=
  let n := c.toNat
  (9 ≤ n && n ≤ 13) || n == 0x20 || n == 0x85 || n == 0xA0 || n == 0x1680 ||
    (0x2000 ≤ n && n ≤ 0x200A) || n == 0x2028 || n == 0x2029 || n == 0x202F || n == 0x205F ||
    n == 0x3000

/-- Space, tab, line feed, form feed and carriage return; the vertical tab is not among them. -/
def isAsciiBlank (b : UInt8) : Bool :=
  b == 0x20 || b == 0x09 || b == 0x0A || b == 0x0C || b == 0x0D

/-- Space and tab, the blanks within a line of settings. -/
def isSpace (c : Char) : Bool := c == ' ' || c == '\t'

/-! ## 2. Trimming lists of characters -/

/-- Drops the longest run of characters in the class from the end. -/
def dropEndWhile (p : Char → Bool) (cs : List Char) : List Char :=
  (cs.reverse.dropWhile p).reverse

/-- Removes blanks from both ends. -/
def trimChars (cs : List Char) : List Char :=
  dropEndWhile isBlank (cs.dropWhile isBlank)

/-- Drops blanks within a line from the front. -/
def skipSpaces (cs : List Char) : List Char := cs.dropWhile isSpace

@[simp] theorem dropEndWhile_nil (p : Char → Bool) : dropEndWhile p [] = [] := rfl

@[simp] theorem trimChars_nil : trimChars [] = [] := rfl

/-! ## 3. Trimming strings -/

/-- Removes blanks from both ends of a string. -/
def trim (s : String) : String :=
  String.ofList (trimChars s.toList)

/-- Removes every copy of a character from the end of a string. -/
def trimEndChar (c : Char) (s : String) : String :=
  String.ofList (dropEndWhile (· == c) s.toList)

/-- Whether a string holds nothing but blanks. -/
def allBlank (s : String) : Bool :=
  s.toList.all isBlank

end LoginGate.Text
