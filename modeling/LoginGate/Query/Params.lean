/-
# Query parameters

Decoded parameters in the order of their first occurrence, each with its last value.  A query string
is trimmed of blanks and of leading question marks before it is read, and parameters without a name
are dropped.
-/
import LoginGate.Entries
import LoginGate.Text.Blank
import LoginGate.Text.FormEncoded

namespace LoginGate

/-- Decoded query parameters with distinct names, in insertion order. -/
structure QueryParams where
  entries : List (String × String)
  nodup : (Entries.keys entries).Nodup := by decide
  deriving DecidableEq

/-- The part of a query text that is read: blanks around it and question marks in front are not. -/
def trimQuery (query : String) : List Char :=
  (Text.trimChars query.toList).dropWhile (· == '?')

namespace QueryParams

/-- No parameters. -/
def empty : QueryParams := { entries := [], nodup := by simp [Entries.keys] }

instance : Inhabited QueryParams := ⟨empty⟩

/-- Parameters inserted one after another. -/
def ofPairs (pairs : List (String × String)) : QueryParams :=
  { entries := Entries.ofPairs pairs, nodup := Entries.ofPairs_nodup pairs }

/-- Reads a query string. -/
def parse (query : String) : QueryParams :=
  ofPairs ((Text.FormEncoded.decodePairs (Text.Utf8.encode (trimQuery query))).filter
    fun (k, _) => k ≠ "")

/-- Replaces the value of a parameter in place, or adds the parameter at the end. -/
def insert (p : QueryParams) (key value : String) : QueryParams :=
  { entries := Entries.insert key value p.entries, nodup := Entries.insert_nodup p.nodup }

/-- The value of a parameter. -/
def get? (p : QueryParams) (key : String) : Option String := Entries.get? key p.entries

/-- Whether a parameter occurs. -/
def contains (p : QueryParams) (key : String) : Bool := Entries.contains key p.entries

/-- The names in order. -/
def keys (p : QueryParams) : List String := Entries.keys p.entries

/-- The number of parameters. -/
def size (p : QueryParams) : Nat := p.entries.length

/-- Whether there are no parameters. -/
def isEmpty (p : QueryParams) : Bool := p.entries.isEmpty

/-- Equality of the parameters as a map: order does not count. -/
def sameMap (p q : QueryParams) : Bool :=
  p.size == q.size && p.entries.all fun (k, v) => q.get? k == some v

/-- The query string that holds the parameters in order. -/
def render (p : QueryParams) : String :=
  String.ofList (Text.FormEncoded.encodePairs p.entries)

@[simp] theorem get?_insert (p : QueryParams) (key value other : String) :
    (p.insert key value).get? other = if key = other then some value else p.get? other :=
  Entries.get?_insert key other value p.entries

end QueryParams

end LoginGate
