/-
# The tree of a JSON text

A text is first read into its tree: strings as the bytes between the quotes with escapes unread,
numbers as their digits, objects with repeated names.  Reading a tree checks the grammar only;
whether a string is well-formed text, a number in range or the nesting within its limit is asked
when a part of the tree is used, so that a part nobody uses may be out of bounds (`Json.Reader`).
-/

namespace LoginGate.Json

/-- A number as it is written. -/
structure Numeral where
  negative : Bool
  /-- The digits before the point. -/
  whole : List Nat
  /-- The digits behind the point; there is no point when there are none. -/
  fraction : List Nat
  /-- The exponent: whether it is negative, and its digits. -/
  exponent : Option (Bool × List Nat)
  deriving DecidableEq, Repr

/-- What a JSON text says, with nothing resolved. -/
inductive Tree where
  | null
  | bool (b : Bool)
  | number (n : Numeral)
  | string (raw : List UInt8)
  | array (items : List Tree)
  | object (members : List (List UInt8 × Tree))
  deriving Repr, Inhabited

namespace Tree

/-! ## 1. Blanks and literals -/

/-- The four blanks of JSON. -/
def isSpace (b : UInt8) : Bool := b == 0x20 || b == 0x09 || b == 0x0A || b == 0x0D

/-- Drops blanks from the front. -/
def skip (bs : List UInt8) : List UInt8 := bs.dropWhile isSpace

/-- The rest behind an expected beginning. -/
def expect : List UInt8 → List UInt8 → Option (List UInt8)
  | [], bs => some bs
  | _ :: _, [] => none
  | w :: ws, b :: bs => if w == b then expect ws bs else none

/-! ## 2. Numbers -/

/-- The value of a digit. -/
def digit? (b : UInt8) : Option Nat :=
  if 0x30 ≤ b && b ≤ 0x39 then some (b.toNat - 0x30) else none

/-- The longest run of digits at the front, and what follows it. -/
def digits (bs : List UInt8) : List Nat × List UInt8 :=
  ((bs.takeWhile (digit? · |>.isSome)).filterMap digit?, bs.dropWhile (digit? · |>.isSome))

/-- A point and at least one digit; no point, no digits. -/
def fraction? : List UInt8 → Option (List Nat × List UInt8)
  | 0x2E :: bs =>
    let (ds, rest) := digits bs
    if ds.isEmpty then none else some (ds, rest)
  | bs => some ([], bs)

/-- An exponent mark, a sign if there is one, and at least one digit. -/
def exponent? (bs : List UInt8) : Option (Option (Bool × List Nat) × List UInt8) :=
  match bs with
  | [] => some (none, [])
  | b :: rest =>
    if b == 0x65 || b == 0x45 then
      let (down, rest) := match rest with
        | 0x2B :: r => (false, r)
        | 0x2D :: r => (true, r)
        | r => (false, r)
      let (ds, rest) := digits rest
      if ds.isEmpty then none else some (some (down, ds), rest)
    else some (none, bs)

/-- An unsigned number: no leading zero except the one of a single-digit whole part. -/
def unsigned? (negative : Bool) (bs : List UInt8) : Option (Numeral × List UInt8) := do
  let (whole, rest) := digits bs
  if whole.isEmpty || (whole.head? == some 0 && 1 < whole.length) then none
  else
    let (fraction, rest) ← fraction? rest
    let (exponent, rest) ← exponent? rest
    some (⟨negative, whole, fraction, exponent⟩, rest)

/-! ## 3. Strings -/

/-- Whether a byte is a hexadecimal digit. -/
def isHex (b : UInt8) : Bool :=
  (0x30 ≤ b && b ≤ 0x39) || (0x41 ≤ b && b ≤ 0x46) || (0x61 ≤ b && b ≤ 0x66)

/-- Whether a byte may follow a backslash, the `u` of four digits apart. -/
def isEscape (b : UInt8) : Bool :=
  b == 0x22 || b == 0x5C || b == 0x2F || b == 0x62 || b == 0x66 || b == 0x6E || b == 0x72 ||
    b == 0x74

/-- The bytes up to the closing quote in reverse, in front of those already taken, and the rest
behind it. -/
def stringBody (taken : List UInt8) : List UInt8 → Option (List UInt8 × List UInt8)
  | [] => none
  | 0x22 :: rest => some (taken.reverse, rest)
  | 0x5C :: 0x75 :: a :: b :: c :: d :: rest =>
    if isHex a && isHex b && isHex c && isHex d then
      stringBody (d :: c :: b :: a :: 0x75 :: 0x5C :: taken) rest
    else none
  | 0x5C :: e :: rest =>
    if isEscape e then stringBody (e :: 0x5C :: taken) rest else none
  | b :: rest => if b == 0x5C || b < 0x20 then none else stringBody (b :: taken) rest

/-- A string, its opening quote included. -/
def string? : List UInt8 → Option (List UInt8 × List UInt8)
  | 0x22 :: rest => stringBody [] rest
  | _ => none

/-! ## 4. Values -/

mutual

/-- A value behind blanks, and the rest behind it.  The first argument bounds the number of values
and separators still to be read. -/
def value? : Nat → List UInt8 → Option (Tree × List UInt8)
  | 0, _ => none
  | fuel + 1, bs =>
    match skip bs with
    | [] => none
    | b :: rest =>
      if b == 0x22 then (stringBody [] rest).map fun (s, r) => (.string s, r)
      else if b == 0x5B then
        match skip rest with
        | 0x5D :: r => some (.array [], r)
        | _ => (items? fuel rest).map fun (is, r) => (.array is, r)
      else if b == 0x7B then
        match skip rest with
        | 0x7D :: r => some (.object [], r)
        | _ => (members? fuel rest).map fun (ms, r) => (.object ms, r)
      else if b == 0x6E then (expect [0x75, 0x6C, 0x6C] rest).map fun r => (.null, r)
      else if b == 0x74 then (expect [0x72, 0x75, 0x65] rest).map fun r => (.bool true, r)
      else if b == 0x66 then (expect [0x61, 0x6C, 0x73, 0x65] rest).map fun r => (.bool false, r)
      else if b == 0x2D then (unsigned? true rest).map fun (n, r) => (.number n, r)
      else (unsigned? false (b :: rest)).map fun (n, r) => (.number n, r)
termination_by structural fuel => fuel

/-- One or more items up to the closing bracket. -/
def items? : Nat → List UInt8 → Option (List Tree × List UInt8)
  | 0, _ => none
  | fuel + 1, bs => do
    let (v, rest) ← value? fuel bs
    match skip rest with
    | 0x2C :: r =>
      let (vs, r) ← items? fuel r
      some (v :: vs, r)
    | 0x5D :: r => some ([v], r)
    | _ => none
termination_by structural fuel => fuel

/-- One or more members up to the closing brace. -/
def members? : Nat → List UInt8 → Option (List (List UInt8 × Tree) × List UInt8)
  | 0, _ => none
  | fuel + 1, bs => do
    let (k, rest) ← string? (skip bs)
    match skip rest with
    | 0x3A :: r =>
      let (v, rest) ← value? fuel r
      match skip rest with
      | 0x2C :: r =>
        let (ms, r) ← members? fuel r
        some ((k, v) :: ms, r)
      | 0x7D :: r => some ([(k, v)], r)
      | _ => none
    | _ => none
termination_by structural fuel => fuel

end

/-- The tree of a whole text; nothing but blanks may surround the value. -/
def ofBytes? (bs : List UInt8) : Option Tree := do
  let (tree, rest) ← value? (2 * bs.length + 1) bs
  if (skip rest).isEmpty then some tree else none

end Tree

end LoginGate.Json
