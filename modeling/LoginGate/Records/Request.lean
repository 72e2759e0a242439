/-
# Records of requests and providers

The JSON forms of post data, requests and provider configurations.  Post data is an object of a kind
and a value, in either order.
-/
import LoginGate.Provider
import LoginGate.Records.Names
import LoginGate.Request

namespace LoginGate

open Json

/-! ## 1. Post data -/

namespace Payload

/-- The record of post data. -/
def toJson : Payload → Value
  | text s => .object [("type", .string "Text"), ("value", .string s)]
  | bytes bs =>
    .object [("type", .string "Bytes"), ("value", .array (bs.map fun b => Value.int b.toNat))]
  | map ms => .object [("type", .string "Map"), ("value", .object ms)]
  | other v => .object [("type", .string "Other"), ("value", v)]

/-- Reads what a kind of post data holds. -/
def contentDecoder (kind : String) : Decoder Payload := fun d t =>
  match kind with
  | "Text" => (Decoder.text d t).map text
  | "Bytes" =>
    (Decoder.list (Decoder.nat 255) d t).map fun ns => bytes (ns.map UInt8.ofNat)
  | "Map" =>
    match Decoder.value d t with
    | some (.object ms) => some (map ms)
    | _ => none
  | "Other" => (Decoder.value d t).map other
  | _ => none

/-- Reads the record of post data. -/
def decoder : Decoder Payload := fun d t => do
  let (d, parts) ← Decoder.record [⟨"type", false⟩, ⟨"value", false⟩] d t
  match parts with
  | [some kind, some content] =>
    let kind ← Decoder.unitVariant false some d kind
    contentDecoder kind d content
  | _ => none

end Payload

/-! ## 2. Requests -/

namespace Request

/-- The record of a request. -/
def toJson (r : Request) : Value :=
  .object
    [("user_id", .string r.userId),
      ("application_id", .string r.applicationId),
      ("application_version", .string r.applicationVersion),
      ("region", .string r.region),
      ("client_authentication_type", r.authType.toJson),
      ("client_authentication_params", Value.optString r.params),
      ("client_authentication_data", match r.data with
        | some p => p.toJson
        | none => .null)]

/-- The fields of the record. -/
def recordFields : List Decoder.Field :=
  [⟨"user_id", false⟩, ⟨"application_id", false⟩, ⟨"application_version", false⟩,
    ⟨"region", false⟩, ⟨"client_authentication_type", false⟩,
    ⟨"client_authentication_params", false⟩, ⟨"client_authentication_data", false⟩]

/-- Reads the record of a request. -/
def decoder : Decoder Request := fun d t => do
  let (d, parts) ← Decoder.record recordFields d t
  match parts with
  | [userId, applicationId, applicationVersion, region, authType, params, data] =>
    let userId ← Decoder.required Decoder.text d userId
    let applicationId ← Decoder.required Decoder.text d applicationId
    let applicationVersion ← Decoder.required Decoder.text d applicationVersion
    let region ← Decoder.required Decoder.text d region
    let authType ← Decoder.required AuthType.decoder d authType
    let params ← Decoder.nullable Decoder.text d params
    let data ← Decoder.nullable Payload.decoder d data
    some { userId, applicationId, applicationVersion, region, authType, params, data }
  | _ => none

end Request

/-! ## 3. Providers -/

namespace Provider

/-- The record of a provider configuration. -/
def toJson (p : Provider) : Value :=
  .object
    [("authentication_type", p.authType.toJson),
      ("base_uri", .string p.baseUri),
      ("static_query_parameters", p.dashboard.toJson),
      ("forward_as_json", .bool p.forwardAsJson),
      ("reject_if_unavailable", .bool p.rejectIfUnavailable)]

/-- The fields of the record. -/
def recordFields : List Decoder.Field :=
  [⟨"authentication_type", false⟩, ⟨"base_uri", false⟩, ⟨"static_query_parameters", false⟩,
    ⟨"forward_as_json", false⟩, ⟨"reject_if_unavailable", false⟩]

/-- Reads the record of a provider configuration. -/
def decoder : Decoder Provider := fun d t => do
  let (d, parts) ← Decoder.record recordFields d t
  match parts with
  | [authType, baseUri, dashboard, forwardAsJson, rejectIfUnavailable] =>
    let authType ← Decoder.required AuthType.decoder d authType
    let baseUri ← Decoder.required Decoder.text d baseUri
    let dashboard ← Decoder.required QueryParams.decoder d dashboard
    let forwardAsJson ← Decoder.required Decoder.bool d forwardAsJson
    let rejectIfUnavailable ← Decoder.required Decoder.bool d rejectIfUnavailable
    some { authType, baseUri, dashboard, forwardAsJson, rejectIfUnavailable }
  | _ => none

end Provider

end LoginGate
