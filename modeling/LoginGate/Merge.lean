/-
# Merging client parameters with dashboard parameters

Dashboard parameters lead the merged query string and always win.  Segments of the client's query
string follow untouched, unless their name is set on the dashboard or carried by a map payload.  A
map payload keeps its own names in their order and takes the dashboard's value for each name that
both have; text and bytes are forwarded as they are unless structured results are expected.
-/
import LoginGate.Call
import LoginGate.Provider
import LoginGate.Query.Segments
import LoginGate.Request

namespace LoginGate

/-- The query string and body of a call. -/
structure MergedRequest where
  queryString : String
  body : Option (List UInt8) := none
  contentType : Option String := none
  deriving DecidableEq, Repr

/-- Post data that is not forwarded. -/
inductive MergeError where
  | unsupportedPostData
  deriving DecidableEq, Repr

/-- The wording of the error. -/
def MergeError.message : MergeError → String
  | unsupportedPostData => "Unsupported post data type"

namespace MergedRequest

/-- The content type of a map payload. -/
def jsonContentType : String := "application/json"

/-! ## 1. The body -/

/-- Members with the dashboard's value for every name that the dashboard sets. -/
def overrideMembers (dashboard : QueryParams) (members : Json.Members) : Json.Members :=
  members.map fun (k, v) =>
    match dashboard.get? k with
    | some s => (k, .string s)
    | none => (k, v)

/-- The body of post data, its content type and the names that it carries. -/
def bodyOf (provider : Provider) :
    Option Payload → Except MergeError (Option (List UInt8) × Option String × List String)
  | none => .ok (none, none, [])
  | some (.map ms) =>
    let merged := Json.Value.object (overrideMembers provider.dashboard ms)
    .ok (some (Text.Utf8.encode merged.write), some jsonContentType, Entries.keys ms)
  | some (.text s) =>
    if provider.forwardAsJson then .error .unsupportedPostData
    else .ok (some (Text.Utf8.bytes s), none, [])
  | some (.bytes bs) =>
    if provider.forwardAsJson then .error .unsupportedPostData else .ok (some bs, none, [])
  | some (.other _) => .error .unsupportedPostData

/-! ## 2. The query string -/

/-- The client's segments that are forwarded. -/
def forwardedSegments (dashboard : QueryParams) (carried : List String) (client : Option String) :
    List (String × String) :=
  match client with
  | none => []
  | some query =>
    (QuerySegments.parse query).entries.filter fun (k, _) =>
      !dashboard.contains k && !carried.contains k

/-- Segments behind a query string, with ampersands where something stands in front. -/
def appendSegments (query : List Char) (segments : List String) : List Char :=
  segments.foldl
    (fun q s => if q.isEmpty then s.toList else q ++ '&' :: s.toList) query

/-- Merges a client's parameters and post data with a provider's dashboard parameters. -/
def ofParts (provider : Provider) (client : Option String) (data : Option Payload) :
    Except MergeError MergedRequest := do
  let (body, contentType, carried) ← bodyOf provider data
  let segments := forwardedSegments provider.dashboard carried client
  let query := appendSegments (Text.FormEncoded.encodePairs provider.dashboard.entries)
    (segments.map (·.2))
  return { queryString := String.ofList query, body, contentType }

/-! ## 3. The call -/

/-- A URL with a query string behind it.  Behind an existing query an ampersand is put, unless the
URL ends in a question mark or an ampersand. -/
def appendQuery (baseUri query : String) : String :=
  if query.isEmpty then baseUri
  else
    let cs := baseUri.toList
    let last := cs.getLast?
    if !cs.contains '?' then String.ofList (cs ++ '?' :: query.toList)
    else if last = some '?' || last = some '&' then String.ofList (cs ++ query.toList)
    else String.ofList (cs ++ '&' :: query.toList)

/-- The call on a base URL: a post exactly when there is a body. -/
def toCall (m : MergedRequest) (baseUri : String) : Call :=
  let url := appendQuery baseUri m.queryString
  match m.body with
  | some body => { method := .post, url, body := some body, contentType := m.contentType }
  | none => { method := .get, url }

theorem toCall_url (m : MergedRequest) (baseUri : String) :
    (m.toCall baseUri).url = appendQuery baseUri m.queryString := by
  rw [toCall]
  cases m.body <;> rfl

end MergedRequest

end LoginGate
