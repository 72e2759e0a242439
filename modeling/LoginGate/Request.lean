/-
# Authentication requests

What a connecting client sends: who it says it is, the provider type, a query string as it was typed
and untyped post data.  `Payload.ofValue` says which kind of post data a JSON value is, and
`Payload.ofArgument` reads post data from the command line.
-/
import LoginGate.AuthType
import LoginGate.Json.Reader
import LoginGate.Json.Writer

namespace LoginGate

/-- Post data of a request. -/
inductive Payload where
  | text (s : String)
  | bytes (bs : List UInt8)
  | map (members : Json.Members)
  /-- Anything else a client managed to send; it is never forwarded. -/
  | other (v : Json.Value)
  deriving Repr, BEq

namespace Payload

/-- The kind of a payload in words. -/
def kind : Payload → String
  | text _ => "text"
  | bytes _ => "bytes"
  | map _ => "map"
  | other _ => "other"

/-- The text of a text payload. -/
def asText : Payload → Option String
  | text s => some s
  | _ => none

/-- The members of a map payload. -/
def asMap : Payload → Option Json.Members
  | map ms => some ms
  | _ => none

/-- A JSON value as post data: strings are text and objects are maps. -/
def ofValue : Json.Value → Payload
  | .string s => text s
  | .object ms => map ms
  | v => other v

/-- Post data given as an argument: JSON when it reads as JSON, and text otherwise. -/
def ofArgument (s : String) : Payload :=
  match Json.Value.parse? s with
  | some v => ofValue v
  | none => text s

end Payload

/-- An authentication attempt. -/
structure Request where
  userId : String
  applicationId : String := ""
  applicationVersion : String := ""
  region : String := ""
  authType : AuthType
  /-- The query string as the client typed it. -/
  params : Option String := none
  data : Option Payload := none
  deriving Repr

namespace Request

/-- Whether the query string holds anything but blanks. -/
def hasParams (r : Request) : Bool := r.params.any (!Text.allBlank ·)

/-- Whether there is post data. -/
def hasData (r : Request) : Bool := r.data.isSome

end Request

end LoginGate
