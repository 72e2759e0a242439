/-
# TOML values

What a TOML text can say.  The keys of a table are distinct and stand in the order in which they
first occurred.
-/
import LoginGate.Binary64.Basic
import LoginGate.Toml.DateTime

namespace LoginGate.Toml

/-- A TOML value. -/
inductive Value where
  | text (s : String)
  | integer (n : Int)
  | float (x : Binary64)
  | bool (b : Bool)
  | dateTime (d : DateTime)
  | array (items : List Value)
  | table (entries : List (String × Value))
  deriving Repr, Inhabited, BEq

/-- The keys of a table with their values. -/
abbrev Table := List (String × Value)

end LoginGate.Toml
