/-
# Strings in TOML

Basic strings stand between double quotes and know escapes, literal strings stand between single
quotes and know none.  Either may run over several lines between three quotes each; a line break
right behind the opening quotes is dropped, every other one reads as a line feed, and one or two
more quotes may stand before the closing ones.
-/
import LoginGate.Text.Blank
import LoginGate.Toml.Number

namespace LoginGate.Toml

/-! ## 1. Characters -/

/-- The double quote. -/
def quote : Char := '\x22'

/-- The single quote. -/
def tick : Char := '\x27'

/-- Whether a character may stand in text: the tab, and all characters that are no ASCII controls.
-/
def isTextChar (c : Char) : Bool :=
  c == '\t' || (0x20 ≤ c.toNat && c.toNat != 0x7F)

/-- The rest behind a line break: a line feed, with or without a carriage return before it. -/
def lineBreak? : List Char → Option (List Char)
  | '\n' :: rest => some rest
  | '\r' :: '\n' :: rest => some rest
  | _ => none

/-! ## 2. Escapes -/

/-- The character of a code point, unless it is half of a surrogate pair or out of range. -/
def scalar? (n : Nat) : Option Char :=
  if n < 0xD800 || (0xE000 ≤ n && n < 0x110000) then some (Char.ofNat n) else none

/-- The character of so many hexadecimal digits. -/
def codePoint? (width : Nat) (cs : List Char) : Option Char := do
  let ds ← (cs.take width).mapM (digitIn? 16)
  if ds.length = width then scalar? (valueIn 16 ds) else none

/-- The character that a one-letter escape stands for. -/
def shortEscape? (c : Char) : Option Char :=
  if c = 'b' then some '\x08'
  else if c = 't' then some '\t'
  else if c = 'n' then some '\n'
  else if c = 'f' then some '\x0C'
  else if c = 'r' then some '\r'
  else if c = quote || c = '\\' then some c
  else none

/-- The character of an escape behind its backslash, and how many characters the escape has there.
-/
def escape? : List Char → Option (Char × Nat)
  | [] => none
  | c :: rest =>
    if c = 'u' then (codePoint? 4 rest).map (·, 5)
    else if c = 'U' then (codePoint? 8 rest).map (·, 9)
    else (shortEscape? c).map (·, 1)

/-! ## 3. Strings on one line -/

/-- The characters of a literal string up to its closing quote. -/
def literalBody? (taken : List Char) : List Char → Option (List Char × List Char)
  | [] => none
  | c :: rest =>
    if c = tick then some (taken.reverse, rest)
    else if isTextChar c then literalBody? (c :: taken) rest
    else none

/-- The characters of a basic string up to its closing quote.  The first argument bounds the number
of characters and escapes. -/
def basicBody? : Nat → List Char → List Char → Option (List Char × List Char)
  | 0, _, _ => none
  | _ + 1, _, [] => none
  | fuel + 1, taken, c :: rest =>
    if c = quote then some (taken.reverse, rest)
    else if c = '\\' then do
      let (d, n) ← escape? rest
      basicBody? fuel (d :: taken) (rest.drop n)
    else if isTextChar c then basicBody? fuel (c :: taken) rest
    else none

/-! ## 4. Strings over several lines -/

/-- How many copies of a quote stand in front. -/
def countQuotes (q : Char) (cs : List Char) : Nat := (cs.takeWhile (· == q)).length

/-- Drops blanks and line breaks. -/
def skipLines (cs : List Char) : Nat → List Char
  | 0 => cs
  | fuel + 1 =>
    match lineBreak? cs with
    | some rest => skipLines rest fuel
    | none =>
      match cs with
      | c :: rest => if Text.isSpace c then skipLines rest fuel else cs
      | [] => []

/-- The rest behind a backslash that ends its line, with all blanks and line breaks behind it. -/
def foldedLine? (cs : List Char) : Option (List Char) :=
  (lineBreak? (Text.skipSpaces cs)).map fun rest => skipLines rest rest.length

/-- The characters of a string over several lines up to its closing quotes; only a basic string has
escapes.  The first argument bounds the number of steps. -/
def linesBody? (q : Char) : Nat → List Char → List Char → Option (List Char × List Char)
  | 0, _, _ => none
  | _ + 1, _, [] => none
  | fuel + 1, taken, c :: rest =>
    if c = q then
      let n := countQuotes q (c :: rest)
      if n < 3 then linesBody? q fuel (List.replicate n q ++ taken) (rest.drop (n - 1))
      else if n < 6 then
        some ((List.replicate (n - 3) q ++ taken).reverse, rest.drop (n - 1))
      else none
    else if c = '\\' && q = quote then
      match foldedLine? rest with
      | some rest => linesBody? q fuel taken rest
      | none =>
        match escape? rest with
        | some (d, n) => linesBody? q fuel (d :: taken) (rest.drop n)
        | none => none
    else if isTextChar c then linesBody? q fuel (c :: taken) rest
    else
      match lineBreak? (c :: rest) with
      | some rest => linesBody? q fuel ('\n' :: taken) rest
      | none => none

/-- Drops a line break right in front. -/
def dropBreak (cs : List Char) : List Char := (lineBreak? cs).getD cs

/-! ## 5. Any string -/

/-- A string on one line, its opening quote included. -/
def lineText? : List Char → Option (List Char × List Char)
  | [] => none
  | c :: rest =>
    if c = quote then basicBody? (rest.length + 1) [] rest
    else if c = tick then literalBody? [] rest
    else none

/-- A string of any kind, its opening quotes included. -/
def text? (cs : List Char) : Option (List Char × List Char) :=
  match cs with
  | a :: b :: c :: rest =>
    if a = b && b = c && (a = quote || a = tick) then
      let body := dropBreak rest
      linesBody? a (body.length + 1) [] body
    else lineText? cs
  | _ => lineText? cs

end LoginGate.Toml
