/-
# Query segments as they were sent

The segments of a client's query string, untouched, under their decoded names: the first segment of
a name fixes its place and the last one its text.  Values are never decoded here, so what is
forwarded is what the client sent.
-/
import LoginGate.Query.Params

namespace LoginGate

/-- Untouched `name=value` segments by decoded name, in the order of the names' first occurrence. -/
structure QuerySegments where
  entries : List (String × String)
  deriving DecidableEq

namespace QuerySegments

/-- The decoded name of a segment: what stands before its first equals sign.  A segment that begins
with the sign has none. -/
def name? (segment : List Char) : Option String :=
  let raw := match Text.cutFirst '=' segment with
    | some (k, _) => k
    | none => segment
  if raw.isEmpty then none
  else
    let key := Text.FormEncoded.decode (Text.Utf8.encode raw)
    if key = "" then none else some key

/-- Reads a query string. -/
def parse (query : String) : QuerySegments :=
  let pairs := (Text.splitAt '&' (trimQuery query)).filterMap fun segment =>
    (name? segment).map fun key => (key, String.ofList segment)
  { entries := Entries.ofPairs pairs }

/-- Whether there are no segments. -/
def isEmpty (q : QuerySegments) : Bool := q.entries.isEmpty

end QuerySegments

end LoginGate
