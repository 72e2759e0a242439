/-
# Writing JSON

`Value.write` is the compact text: no blanks, members in order, and only the quote, the backslash
and the characters below U+0020 escaped.  `Value.writeIndented` puts each item and member on a line
of its own, two blanks deeper than its parent.
-/
import LoginGate.Json.Value

namespace LoginGate.Json

/-! ## 1. Strings and numbers -/

/-- A hexadecimal digit in lower case. -/
def hexDigit (n : Nat) : Char :=
  (Nat.toDigits 16 (n % 16)).headD '0'

/-- The written form of one character inside a string. -/
def escapeChar (c : Char) : List Char :=
  if c = '"' then ['\\', '"']
  else if c = '\\' then ['\\', '\\']
  else if c = '\x08' then ['\\', 'b']
  else if c = '\x0c' then ['\\', 'f']
  else if c = '\n' then ['\\', 'n']
  else if c = '\r' then ['\\', 'r']
  else if c = '\t' then ['\\', 't']
  else if c.toNat < 0x20 then ['\\', 'u', '0', '0', hexDigit (c.toNat / 16), hexDigit c.toNat]
  else [c]

/-- A string between quotes. -/
def writeString (s : String) : List Char :=
  '"' :: s.toList.flatMap escapeChar ++ ['"']

/-- Numbers are positional while their first digit stands for `10^-5` to `10^15`, and whole ones end
in `.0`. -/
def floatStyle : Binary64.DecimalStyle := ⟨-5, 15, true⟩

/-- An integer in decimal. -/
def writeInt (n : Int) : List Char :=
  (if n < 0 then ['-'] else []) ++ Binary64.natText n.natAbs

/-- A number; what is not finite has no JSON form and is written as null. -/
def Number.write : Number → List Char
  | .integer n => writeInt n
  | .float (.finite s m e) => (if s then ['-'] else []) ++ floatStyle.write m e
  | .float _ => ['n', 'u', 'l', 'l']

/-! ## 2. Compact text -/

mutual

/-- The compact text of a value. -/
def Value.write : Value → List Char
  | .null => ['n', 'u', 'l', 'l']
  | .bool true => ['t', 'r', 'u', 'e']
  | .bool false => ['f', 'a', 'l', 's', 'e']
  | .number n => n.write
  | .string s => writeString s
  | .array items => '[' :: writeItems items ++ [']']
  | .object members => '\x7b' :: writeMembers members ++ ['\x7d']
termination_by structural v => v

/-- Items with commas between them. -/
def writeItems : List Value → List Char
  | [] => []
  | v :: [] => v.write
  | v :: w :: rest => v.write ++ ',' :: writeItems (w :: rest)
termination_by structural vs => vs

/-- Members with commas between them. -/
def writeMembers : List (String × Value) → List Char
  | [] => []
  | (k, v) :: [] => writeString k ++ ':' :: v.write
  | (k, v) :: m :: rest => writeString k ++ ':' :: v.write ++ ',' :: writeMembers (m :: rest)
termination_by structural ms => ms

end

/-- The compact text of a value as a string. -/
def Value.render (v : Value) : String := String.ofList v.write

/-! ## 3. Indented text -/

/-- A line break and the blanks of a depth. -/
def newline (depth : Nat) : List Char := '\n' :: List.replicate (2 * depth) ' '

mutual

/-- The indented text of a value at a depth; empty arrays and objects stay on one line. -/
def Value.writeIndented (depth : Nat) : Value → List Char
  | .array [] => ['[', ']']
  | .object [] => ['\x7b', '\x7d']
  | .array (v :: rest) =>
    '[' :: newline (depth + 1) ++ v.writeIndented (depth + 1) ++
      indentedItems (depth + 1) rest ++ newline depth ++ [']']
  | .object ((k, v) :: rest) =>
    '\x7b' :: newline (depth + 1) ++ writeString k ++ ':' :: ' ' :: v.writeIndented (depth + 1) ++
      indentedMembers (depth + 1) rest ++ newline depth ++ ['\x7d']
  | .null => ['n', 'u', 'l', 'l']
  | .bool b => if b then ['t', 'r', 'u', 'e'] else ['f', 'a', 'l', 's', 'e']
  | .number n => n.write
  | .string s => writeString s
termination_by structural v => v

/-- The items after the first, each behind a comma and a line break. -/
def indentedItems (depth : Nat) : List Value → List Char
  | [] => []
  | v :: rest => ',' :: newline depth ++ v.writeIndented depth ++ indentedItems depth rest
termination_by structural vs => vs

/-- The members after the first, each behind a comma and a line break. -/
def indentedMembers (depth : Nat) : List (String × Value) → List Char
  | [] => []
  | (k, v) :: rest =>
    ',' :: newline depth ++ writeString k ++ ':' :: ' ' :: v.writeIndented depth ++
      indentedMembers depth rest
termination_by structural ms => ms

end

/-- The indented text of a value as a string. -/
def Value.renderIndented (v : Value) : String := String.ofList (v.writeIndented 0)

end LoginGate.Json
