/-
# Typed settings

A setting is read as text, as a truth value or as a natural number wherever its form allows it.  A
record is a table of its fields, or a list of them in order; fields that are missing keep their
defaults, and what belongs to no field does not count.
-/
import LoginGate.Settings.Tree
import LoginGate.Word

namespace LoginGate.Setting

/-! ## 1. Plain settings -/

/-- A setting as text. -/
def toText? : Setting → Option String
  | text s => some s
  | bool b => some (if b then "true" else "false")
  | int n => some (toString n)
  | float x => some x.plain
  | nil | list _ | table _ => none

/-- The words that mean true. -/
def yesWords : List String := ["true", "on", "yes"]

/-- The words that mean false. -/
def noWords : List String := ["false", "off", "no"]

/-- A setting as a truth value; numbers other than zero mean true. -/
def toBool? : Setting → Option Bool
  | bool b => some b
  | int n => some (n ≠ 0)
  | float x => some (!x.isZero)
  | text s =>
    let word := Text.lowerCase s
    if word ∈ "1" :: yesWords then some true
    else if word ∈ "0" :: noWords then some false
    else none
  | nil | list _ | table _ => none

/-- A natural number in decimal, with an optional plus sign. -/
def natural? (cs : List Char) : Option Nat :=
  let cs := match cs with
    | '+' :: rest => rest
    | cs => cs
  match Binary64.takeDigits cs with
  | (d :: ds, []) => some (Binary64.digitsValue (d :: ds))
  | _ => none

/-- A setting as a natural number of 64 bits.  A fraction is rounded to the nearest number and
clamped. -/
def toWord? : Setting → Option Nat
  | bool b => some b.toNat
  | int n => if 0 ≤ n then some n.toNat else none
  | float x => some (x.roundTo 0 Word.maxNat64).toNat
  | text s =>
    let word := Text.lowerCase s
    if word ∈ yesWords then some 1
    else if word ∈ noWords then some 0
    else (natural? s.toList).filter (· ≤ Word.maxNat64)
  | nil | list _ | table _ => none

/-- A setting as a natural number up to a bound. -/
def toNat? (most : Nat) (s : Setting) : Option Nat := s.toWord?.filter (· ≤ most)

/-! ## 2. Records -/

/-- The settings of a record's fields. -/
def fields? (names : List String) : Setting → Option (List (Option Setting))
  | table es => some (names.map fun name => Entries.get? name es)
  | list is => some ((is.map some ++ List.replicate (names.length - is.length) none).take
      names.length)
  | _ => none

/-- A field that must be there. -/
def required {α : Type} (read? : Setting → Option α) (field : Option Setting) : Option α :=
  field.bind read?

/-- A field that keeps a default when it is missing. -/
def orDefault {α : Type} (default : α) (read? : Setting → Option α) (field : Option Setting) :
    Option α :=
  match field with
  | none => some default
  | some s => read? s

/-- The items of a list. -/
def toList? {α : Type} (read? : Setting → Option α) : Setting → Option (List α)
  | list is => is.mapM read?
  | _ => none

/-- The entries of a table. -/
def toEntries? {α : Type} (read? : Setting → Option α) : Setting → Option (List (String × α))
  | table es => es.mapM fun (k, s) => (read? s).map fun v => (k, v)
  | _ => none

end LoginGate.Setting
