/-
# Records of names and parameters

The JSON forms of the enumerations and of query parameters.  A type, counter, queue result or
failure kind is its name; the failure kind that holds a queue result is an object of one member.
-/
import LoginGate.Json.Decode
import LoginGate.Metrics
import LoginGate.Outcome
import LoginGate.Query.Params

namespace LoginGate

open Json

/-! ## 1. Enumerations -/

/-- The record of a type. -/
def AuthType.toJson (t : AuthType) : Value := .string t.name

/-- Reads the record of a type. -/
def AuthType.decoder : Decoder AuthType := Decoder.unitVariant false AuthType.ofName?

/-- The record of a counter. -/
def Counter.toJson (c : Counter) : Value := .string c.recordName

/-- Reads the record of a counter. -/
def Counter.decoder : Decoder Counter := Decoder.unitVariant false Counter.ofRecordName?

/-- The record of a queue result. -/
def QueueResult.toJson (r : QueueResult) : Value := .string r.name

/-- Reads the record of a queue result; the flag tells whether the part was read as a whole before.
-/
def QueueResult.decoder (whole : Bool) : Decoder QueueResult :=
  Decoder.unitVariant whole QueueResult.ofName?

namespace FailureKind

/-- The kinds that hold nothing, with their names. -/
def plainNames : List (String × FailureKind) :=
  [("CustomAuthenticationFailed", customAuthenticationFailed), ("NotSupported", notSupported),
    ("UnsupportedPostData", unsupportedPostData), ("MissingParameter", missingParameter),
    ("AuthTokenInvalid", authTokenInvalid), ("AuthTokenExpired", authTokenExpired),
    ("CertificateTimeout", certificateTimeout), ("InternalServerError", internalServerError)]

/-- The name of a kind. -/
def name : FailureKind → String
  | customAuthenticationFailed => "CustomAuthenticationFailed"
  | notSupported => "NotSupported"
  | unsupportedPostData => "UnsupportedPostData"
  | missingParameter => "MissingParameter"
  | transport _ => "Transport"
  | authTokenInvalid => "AuthTokenInvalid"
  | authTokenExpired => "AuthTokenExpired"
  | certificateTimeout => "CertificateTimeout"
  | internalServerError => "InternalServerError"

/-- The record of a kind. -/
def toJson (k : FailureKind) : Value :=
  match k with
  | transport r => .object [(k.name, r.toJson)]
  | _ => .string k.name

/-- Reads the record of a kind. -/
def decoder (whole : Bool) : Decoder FailureKind := fun d t => do
  let (k, content) ← Decoder.variant d t
  if k = "Transport" then
    let (d, t) ← content
    (QueueResult.decoder whole d t).map transport
  else if Decoder.holdsNothing whole content then Entries.get? k plainNames
  else none

end FailureKind

/-! ## 2. Parameters -/

/-- The record of parameters: an object in their order. -/
def QueryParams.toJson (p : QueryParams) : Value :=
  .object (p.entries.map fun (k, v) => (k, .string v))

/-- Reads the record of parameters; a repeated name keeps its place and takes its last value. -/
def QueryParams.decoder : Decoder QueryParams := fun d t =>
  (Decoder.members Decoder.text d t).map QueryParams.ofPairs

end LoginGate
