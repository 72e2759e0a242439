/-
# The meaning of a provider's body

What a provider's successful answer means.  A blank body accepts the client.  A result object with a
`ResultCode` is interpreted: 1 accepts, 0 hands data back, 3 complains about the parameters and
every other code denies.  Any other body denies the client where structured results are expected and
accepts it otherwise.
-/
import LoginGate.Json.Decode
import LoginGate.Outcome
import LoginGate.Text.Blank
import LoginGate.Word

namespace LoginGate

open Json

/-- The structured answer of a provider. -/
structure ProviderResult where
  resultCode : Option Binary64
  userId : Option String
  nickname : Option String
  authCookie : Option Value
  data : Option Value
  message : Option String
  expireAt : Option Number

namespace ProviderResult

/-! ## 1. Reading -/

/-- A number as binary64. -/
def toBinary64 : Number → Binary64
  | .integer n => Binary64.ofInt n
  | .float x => x

/-- Reads a result code: a number, or a string that holds one between blanks.  Null and a string
that holds no number are no code. -/
def codeDecoder : Decoder (Option Binary64) := fun _ t =>
  match t with
  | .null => some none
  | .number n => n.number?.map fun n => some (toBinary64 n)
  | .string raw => (text? raw).map fun s => Binary64.parse? (Text.trim s)
  | _ => none

/-- Reads any number. -/
def numberDecoder : Decoder Number := fun _ t =>
  match t with
  | .number n => n.number?
  | _ => none

/-- The fields of a result object.  An object given as an array may leave out no field but the
first, and the first only together with all others. -/
def fields : List Decoder.Field :=
  [⟨"ResultCode", true⟩, ⟨"UserId", false⟩, ⟨"Nickname", false⟩, ⟨"AuthCookie", false⟩,
    ⟨"Data", false⟩, ⟨"Message", false⟩, ⟨"ExpireAt", false⟩]

/-- Reads a result object. -/
def decoder : Decoder ProviderResult := fun d t => do
  let (d, parts) ← Decoder.record fields d t
  match parts with
  | [resultCode, userId, nickname, authCookie, data, message, expireAt] =>
    let resultCode ← Decoder.defaulted none codeDecoder d resultCode
    let userId ← Decoder.nullable Decoder.text d userId
    let nickname ← Decoder.nullable Decoder.text d nickname
    let authCookie ← Decoder.nullable Decoder.value d authCookie
    let data ← Decoder.nullable Decoder.value d data
    let message ← Decoder.nullable Decoder.text d message
    let expireAt ← Decoder.nullable numberDecoder d expireAt
    some { resultCode, userId, nickname, authCookie, data, message, expireAt }
  | _ => none

/-! ## 2. Meaning -/

/-- A number of seconds as a signed 64-bit integer: an integer above the range goes through
binary64, and fractions are cut off. -/
def toSeconds : Number → Int
  | .integer n =>
    if n ≤ Word.maxInt64 then n
    else (Binary64.ofInt n).truncateTo Word.minInt64 Word.maxInt64
  | .float x => x.truncateTo Word.minInt64 Word.maxInt64

/-- The outcome of a result with a code, for a client that calls itself by a user id. -/
def interpret (r : ProviderResult) (code : Binary64) (userId : String) : Outcome :=
  if code.isInteger 1 then
    .accepted
      { userId := (r.userId.filter (· ≠ "")).getD userId
        nickname := r.nickname
        authCookie := r.authCookie.filter Value.isObject
        expireAt := r.expireAt.map toSeconds }
  else if code.isInteger 0 then .incomplete (r.data.getD .null)
  else if code.isInteger 3 then
    .parameterInvalid (r.message.getD "Invalid authentication parameters")
  else
    .failed .customAuthenticationFailed (r.message.getD "Custom authentication failed")

end ProviderResult

/-- The outcome of a provider's body, for a client that calls itself by a user id. -/
def Outcome.ofBody (body : List UInt8) (forwardAsJson : Bool) (userId : String) : Outcome :=
  if body.all Text.isAsciiBlank then .accept userId
  else
    let result := decodeBytes? ProviderResult.decoder body
    match result, result.bind (·.resultCode) with
    | some r, some code => r.interpret code userId
    | _, _ =>
      if forwardAsJson then
        .failed .customAuthenticationFailed "Invalid response from authentication provider"
      else .accept userId

end LoginGate
