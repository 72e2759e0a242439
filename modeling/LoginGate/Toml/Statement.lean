/-
# TOML statements

A TOML text is a row of statements, each on lines of its own: headers of tables, headers of arrays
of tables, and pairs of a dotted key and a value.  Blanks and comments may stand around them.
Arrays run over lines; inline tables stay on one.  Readers yield what they read and the rest behind
it.
-/
import LoginGate.Toml.Assembly
import LoginGate.Toml.Number
import LoginGate.Toml.Text

namespace LoginGate.Toml

/-! ## 1. Blanks and comments -/

/-- Drops a comment, up to the end of its line or the first character that may stand in no text. -/
def skipComment : List Char → List Char
  | '#' :: rest => rest.dropWhile isTextChar
  | cs => cs

/-- The rest behind blanks, a comment and a line break; the text may end instead. -/
def lineEnd? (cs : List Char) : Option (List Char) :=
  match skipComment (Text.skipSpaces cs) with
  | [] => some []
  | rest => lineBreak? rest

/-- Drops blanks, comments and line breaks; the number bounds the steps. -/
def skipLayout (cs : List Char) : Nat → List Char
  | 0 => cs
  | fuel + 1 =>
    match lineBreak? cs with
    | some rest => skipLayout rest fuel
    | none =>
      match cs with
      | [] => []
      | c :: rest =>
        if Text.isSpace c then skipLayout rest fuel
        else if c = '#' then skipLayout (skipComment (c :: rest)) fuel
        else cs

/-- Drops blanks, comments and line breaks. -/
def skipAll (cs : List Char) : List Char := skipLayout cs cs.length

/-! ## 2. Keys -/

/-- Whether a character may stand in a key without quotes. -/
def isBareChar (c : Char) : Bool :=
  c.isAlphanum || c == '-' || c == '_'

/-- One key: a string on one line, or letters, digits, hyphens and underscores. -/
def simpleKey? (cs : List Char) : Option (String × List Char) :=
  match lineText? cs with
  | some (k, rest) => some (String.ofList k, rest)
  | none =>
    let k := cs.takeWhile isBareChar
    if k.isEmpty then none else some (String.ofList k, cs.dropWhile isBareChar)

/-- Keys with points between them, with blanks around each.  The first argument bounds their number.
-/
def keys? : Nat → List Char → Option (KeyPath × List Char)
  | 0, _ => none
  | fuel + 1, cs => do
    let (k, rest) ← simpleKey? (Text.skipSpaces cs)
    match Text.skipSpaces rest with
    | '.' :: rest =>
      let (ks, rest) ← keys? fuel rest
      some (k :: ks, rest)
    | rest => some ([k], rest)

/-- The greatest number of keys with points between them. -/
def maxKeys : Nat := 79

/-- A dotted key. -/
def keyPath? (cs : List Char) : Option (KeyPath × List Char) := keys? maxKeys cs

/-! ## 3. Values -/

/-- The table that pairs make. -/
def inlineTable? (pairs : List (KeyPath × Value)) : Option Value :=
  (pairs.foldlM (fun t (path, v) => GrowingTable.insert? v path true t) []).map fun t =>
    .table (finishEntries t)

/-- A value that has no parts. -/
def scalarValue? (cs : List Char) : Option (Value × List Char) :=
  match cs with
  | [] => none
  | c :: rest =>
    if c = quote || c = tick then (text? cs).map fun (s, r) => (.text (String.ofList s), r)
    else if c = 't' then
      match rest with
      | 'r' :: 'u' :: 'e' :: r => some (.bool true, r)
      | _ => none
    else if c = 'f' then
      match rest with
      | 'a' :: 'l' :: 's' :: 'e' :: r => some (.bool false, r)
      | _ => none
    else numberOrDate? cs

mutual

/-- A value that may nest to a depth.  The first argument bounds the number of values and separators
still to be read. -/
def value? : Nat → Nat → List Char → Option (Value × List Char)
  | 0, _, _ => none
  | fuel + 1, depth, cs =>
    match cs with
    | [] => none
    | c :: rest =>
      if c = '[' then
        if depth = 0 then none
        else (items? fuel (depth - 1) rest).map fun (vs, r) => (.array vs, r)
      else if c = '\x7b' then
        if depth = 0 then none
        else
          match Text.skipSpaces rest with
          | '\x7d' :: r => some (.table [], r)
          | _ => do
            let (pairs, r) ← pairs? fuel (depth - 1) rest
            let t ← inlineTable? pairs
            some (t, r)
      else scalarValue? cs
termination_by structural fuel => fuel

/-- The items of an array up to its closing bracket; a comma may follow the last one. -/
def items? : Nat → Nat → List Char → Option (List Value × List Char)
  | 0, _, _ => none
  | fuel + 1, depth, cs =>
    match skipAll cs with
    | ']' :: rest => some ([], rest)
    | cs => do
      let (v, rest) ← value? fuel depth cs
      match skipAll rest with
      | ',' :: rest =>
        let (vs, rest) ← items? fuel depth rest
        some (v :: vs, rest)
      | ']' :: rest => some ([v], rest)
      | _ => none
termination_by structural fuel => fuel

/-- One or more pairs of an inline table up to its closing brace. -/
def pairs? : Nat → Nat → List Char → Option (List (KeyPath × Value) × List Char)
  | 0, _, _ => none
  | fuel + 1, depth, cs => do
    let (path, rest) ← keyPath? cs
    match rest with
    | '=' :: rest =>
      let (v, rest) ← value? fuel depth (Text.skipSpaces rest)
      match Text.skipSpaces rest with
      | ',' :: rest =>
        let (ps, rest) ← pairs? fuel depth rest
        some ((path, v) :: ps, rest)
      | '\x7d' :: rest => some ([(path, v)], rest)
      | _ => none
    | _ => none
termination_by structural fuel => fuel

end

/-- How deep arrays and inline tables may be nested. -/
def maxDepth : Nat := 79

/-! ## 4. Statements -/

/-- A statement. -/
inductive Statement where
  | table (path : KeyPath)
  | item (path : KeyPath)
  | pair (path : KeyPath) (v : Value)

/-- A statement, without the end of its line. -/
def statement? (cs : List Char) : Option (Statement × List Char) :=
  match cs with
  | '[' :: '[' :: rest => do
    let (path, rest) ← keyPath? rest
    match rest with
    | ']' :: ']' :: rest => some (.item path, rest)
    | _ => none
  | '[' :: rest => do
    let (path, rest) ← keyPath? rest
    match rest with
    | ']' :: rest => some (.table path, rest)
    | _ => none
  | cs => do
    let (path, rest) ← keyPath? cs
    match rest with
    | '=' :: rest =>
      let (v, rest) ← value? (2 * rest.length + 2) maxDepth (Text.skipSpaces rest)
      some (.pair path v, rest)
    | _ => none

/-- The statements of a text; the number bounds them. -/
def statements? : Nat → List Char → Option (List Statement)
  | 0, _ => none
  | fuel + 1, cs =>
    match skipAll cs with
    | [] => some []
    | cs => do
      let (s, rest) ← statement? cs
      let rest ← lineEnd? rest
      let ss ← statements? fuel rest
      some (s :: ss)

end LoginGate.Toml
