/-
# Claims of sealed tokens

What a sealed token says about a player, and its JSON record.
-/
import LoginGate.Json.Decode
import LoginGate.Json.Writer

namespace LoginGate

open Json

/-- The claims of a sealed token; times are Unix seconds. -/
structure TokenClaims where
  appId : String
  userId : String
  nickname : Option String := none
  /-- The text of a JSON value. -/
  authCookie : Option String := none
  expires : Int
  issued : Int
  notBefore : Option Int := none
  deriving DecidableEq, Repr

namespace TokenClaims

/-- Claims that are issued at a time and valid for a number of seconds. -/
def issue (appId userId : String) (now seconds : Int) : TokenClaims :=
  { appId, userId, expires := now + seconds, issued := now, notBefore := some now }

/-- The claims with a JSON value as their cookie. -/
def withAuthCookie (claims : TokenClaims) (cookie : Value) : TokenClaims :=
  { claims with authCookie := some cookie.render }

/-- The cookie, if it is the text of a JSON object. -/
def cookieValue (claims : TokenClaims) : Option Value :=
  (claims.authCookie.bind Value.parse?).filter Value.isObject

/-- A member that is left out when there is no value. -/
def optionalMember (name : String) (value : Option Value) : Members :=
  (value.map fun v => (name, v)).toList

/-- The record of claims. -/
def toJson (claims : TokenClaims) : Value :=
  .object
    ([("appid", .string claims.appId), ("userid", .string claims.userId)] ++
      optionalMember "nickname" (claims.nickname.map .string) ++
      optionalMember "authcookie" (claims.authCookie.map .string) ++
      [("exp", Value.int claims.expires), ("iat", Value.int claims.issued)] ++
      optionalMember "nbf" (claims.notBefore.map Value.int))

/-- The fields of the record. -/
def recordFields : List Decoder.Field :=
  [⟨"appid", false⟩, ⟨"userid", false⟩, ⟨"nickname", true⟩, ⟨"authcookie", true⟩, ⟨"exp", false⟩,
    ⟨"iat", false⟩, ⟨"nbf", true⟩]

/-- Reads the record of claims. -/
def decoder : Decoder TokenClaims := fun d t => do
  let (d, parts) ← Decoder.record recordFields d t
  match parts with
  | [appId, userId, nickname, authCookie, expires, issued, notBefore] =>
    let appId ← Decoder.required Decoder.text d appId
    let userId ← Decoder.required Decoder.text d userId
    let nickname ← Decoder.nullable Decoder.text d nickname
    let authCookie ← Decoder.nullable Decoder.text d authCookie
    let expires ← Decoder.required Decoder.int64 d expires
    let issued ← Decoder.required Decoder.int64 d issued
    let notBefore ← Decoder.nullable Decoder.int64 d notBefore
    some { appId, userId, nickname, authCookie, expires, issued, notBefore }
  | _ => none

end TokenClaims

end LoginGate
