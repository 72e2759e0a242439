/-
# Marked dates in TOML

A date or a time has a second spelling: a table whose first key is `dateMark` and whose value under
that key is the text of the date.  What else the table holds does not count.  A marked table whose
text is no date spoils the whole document (`Value.resolved?`).
-/
import LoginGate.Toml.Value

namespace LoginGate.Toml

/-- The key that marks a table as a date or a time. -/
def dateMark : String := "$__toml_private_datetime"

/-- The date or time that a whole text spells. -/
def DateTime.ofText? (s : String) : Option DateTime :=
  match DateTime.read? s.toList with
  | some (d, []) => some d
  | _ => none

/-- The value under the mark, if the table begins with it. -/
def marked? : Table → Option Value
  | (k, v) :: _ => if k = dateMark then some v else none
  | [] => none

/-- The date or time that stands under the mark, as text. -/
def Value.markedDate? : Value → Option Value
  | .text s => (DateTime.ofText? s).map .dateTime
  | _ => none

mutual

/-- A value with dates and times in place of all marked tables. -/
def Value.resolved? : Value → Option Value
  | .array items => (resolvedItems? items).map .array
  | .table es =>
    match marked? es with
    | some v => v.markedDate?
    | none => (resolvedEntries? es).map .table
  | v => some v
termination_by structural v => v

/-- The items of an array with dates and times in place of all marked tables. -/
def resolvedItems? : List Value → Option (List Value)
  | [] => some []
  | v :: vs => do
    let v ← v.resolved?
    let vs ← resolvedItems? vs
    some (v :: vs)
termination_by structural vs => vs

/-- The entries of a table with dates and times in place of all marked tables. -/
def resolvedEntries? : List (String × Value) → Option (List (String × Value))
  | [] => some []
  | (k, v) :: es => do
    let v ← v.resolved?
    let es ← resolvedEntries? es
    some ((k, v) :: es)
termination_by structural es => es

end

end LoginGate.Toml
