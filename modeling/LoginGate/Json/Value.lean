/-
# JSON values

A number is a 64-bit integer, signed or unsigned, or a binary64 number; `-0` is a binary64 number.
The members of an object keep the order in which their names first occurred, and a repeated name
takes its last value (`Value.ofMembers`).
-/
import LoginGate.Binary64.Decimal
import LoginGate.Entries

namespace LoginGate.Json

/-- A JSON number. -/
inductive Number where
  /-- An integer in the range of a signed or an unsigned 64-bit word. -/
  | integer (n : Int)
  | float (x : Binary64)
  deriving DecidableEq, Repr, Inhabited

/-- A JSON value. -/
inductive Value where
  | null
  | bool (b : Bool)
  | number (n : Number)
  | string (s : String)
  | array (items : List Value)
  | object (members : List (String × Value))
  deriving Repr, Inhabited, BEq

/-- The members of an object in order. -/
abbrev Members := List (String × Value)

namespace Value

/-- An integer as a value. -/
def int (n : Int) : Value := .number (.integer n)

/-- A text, or null when there is none. -/
def optString : Option String → Value
  | some s => .string s
  | none => .null

/-- An integer, or null when there is none. -/
def optInt : Option Int → Value
  | some n => int n
  | none => .null

/-- The object that members make when they are inserted one after another. -/
def ofMembers (members : List (String × Value)) : Value :=
  .object (Entries.ofPairs members)

/-- Whether a value is an object. -/
def isObject : Value → Bool
  | .object _ => true
  | _ => false

end Value

end LoginGate.Json
