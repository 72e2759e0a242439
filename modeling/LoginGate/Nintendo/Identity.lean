/-
# Nintendo identities

A Nintendo token is signed with a key that is published below an environment's base URL.  Checks run
in a fixed order, and the first that fails is the error: header, algorithm, key URL and key id, the
keys themselves, signature and claims, issuer, time of issue, time of expiry, and application id.
-/
import LoginGate.Certificates.Cache
import LoginGate.Nintendo.Settings
import LoginGate.WebToken.Compact
import LoginGate.Word

namespace LoginGate.Nintendo

open Json

/-! ## 1. Claims and errors -/

/-- The claims of a Nintendo token; times are Unix seconds. -/
structure Claims where
  issuer : String
  subject : String
  issued : Int
  expires : Int
  applicationId : Option String := none
  deriving DecidableEq, Repr

namespace Claims

/-- Reads the claim about the application. -/
def applicationDecoder : Decoder (Option String) := fun d t => do
  match ← Decoder.record [⟨"ai", true⟩] d t with
  | (d, [id]) => Decoder.nullable Decoder.text d id
  | _ => none

/-- The fields of the claims. -/
def recordFields : List Decoder.Field :=
  [⟨"iss", false⟩, ⟨"sub", false⟩, ⟨"iat", false⟩, ⟨"exp", false⟩, ⟨"nintendo", true⟩]

/-- Reads the claims. -/
def decoder : Decoder Claims := fun d t => do
  match ← Decoder.record recordFields d t with
  | (d, [issuer, subject, issued, expires, application]) =>
    let issuer ← Decoder.required Decoder.text d issuer
    let subject ← Decoder.required Decoder.text d subject
    let issued ← Decoder.required Decoder.int64 d issued
    let expires ← Decoder.required Decoder.int64 d expires
    let application ← Decoder.nullable applicationDecoder d application
    some { issuer, subject, issued, expires, applicationId := application.join }
  | _ => none

end Claims

/-- The check that a token failed. -/
inductive Check where
  | header
  | algorithm
  | signature
  | issuer
  | issued
  | expires
  | appId
  deriving DecidableEq, Repr

/-- The name of a check in messages. -/
def Check.name : Check → String
  | header => "header"
  | algorithm => "alg"
  | signature => "signature"
  | issuer => "iss"
  | issued => "iat"
  | expires => "exp"
  | appId => "app id"

/-- Why a token is not accepted. -/
inductive Rejection where
  /-- No keys were there in time. -/
  | retrievalTimeout
  /-- The key URL or the key id is missing or unknown. -/
  | invalidKeyReference
  | invalidToken (check : Check)
  deriving DecidableEq, Repr

/-- The wording of a rejection. -/
def Rejection.message : Rejection → String
  | retrievalTimeout => "Certificate retrieval timeout"
  | invalidKeyReference => "Token invalid (jku/kid)"
  | invalidToken check => s!"Token invalid ({check.name})"

/-- An identity that a token proves. -/
structure Identity where
  subject : String
  environment : String
  deriving DecidableEq, Repr

/-- The user id: subject and environment with an underscore between them. -/
def Identity.userId (i : Identity) : String := s!"{i.subject}_{i.environment}"

/-! ## 2. Checks before and after the keys are known -/

/-- A token whose header is in order, with the place of its key. -/
structure SignedToken where
  token : WebToken.Compact
  keyUrl : String
  keyId : String
  deriving DecidableEq, Repr

/-- Checks the header of a token. -/
def SignedToken.parse (settings : Settings) (token : String) : Except Rejection SignedToken :=
  let compact := WebToken.Compact.ofChars? (Text.trimChars token.toList)
  match compact, compact.bind (·.header?) with
  | some token, some header =>
    if header.algorithm ≠ .rs256 then .error (.invalidToken .algorithm)
    else
      match header.keyUrl, header.keyId with
      | some keyUrl, some keyId =>
        if (settings.environmentOfKeyUrl? keyUrl).isNone then .error .invalidKeyReference
        else .ok { token, keyUrl, keyId }
      | _, _ => .error .invalidKeyReference
  | _, _ => .error (.invalidToken .header)

/-- An application id without blanks around it and without its hexadecimal mark, in lower case. -/
def bareAppId (id : String) : List Char :=
  let cs := Text.trimChars id.toList
  let bare := match cs with
    | '0' :: 'x' :: rest | '0' :: 'X' :: rest => rest
    | rest => rest
  bare.map Char.toLower

/-- Checks claims at a time, for an application. -/
def Claims.check (claims : Claims) (settings : Settings) (appId : String) (now : Int) :
    Except Rejection Identity :=
  match settings.environmentOfIssuer? claims.issuer with
  | none => .error (.invalidToken .issuer)
  | some environment =>
    let skew := Word.wrap settings.clockSkew
    let tokenAppId := claims.applicationId.getD ""
    if Word.wrap (now + skew) < claims.issued then .error (.invalidToken .issued)
    else if claims.expires < Word.wrap (now - skew) then .error (.invalidToken .expires)
    else if tokenAppId = "" || bareAppId tokenAppId ≠ bareAppId appId then
      .error (.invalidToken .appId)
    else .ok { subject := claims.subject, environment }

/-- Checks a token with the keys of its URL, if there are any. -/
def SignedToken.check (t : SignedToken) (settings : Settings) (appId : String) (now : Int)
    (keys : Option Certificates.Keys) : Except Rejection Identity :=
  match keys with
  | none => .error .retrievalTimeout
  | some keys =>
    match Entries.get? t.keyId keys with
    | none => .error .invalidKeyReference
    | some key =>
      match t.token.openPublished? Claims.decoder key with
      | none => .error (.invalidToken .signature)
      | some claims => claims.check settings appId now

/-! ## 3. Verification -/

/-- Verifies a token at an instant of the cache's time and at a Unix time.  Yields the cache, the
instant of the answer and the answer. -/
def verify (settings : Settings) (appId : String) (cache : Certificates.Cache) (instant : Nat)
    (token : String) (now : Int) : Certificates.Cache × Nat × Except Rejection Identity :=
  match SignedToken.parse settings token with
  | .error e => (cache, instant, .error e)
  | .ok t =>
    let (cache, answered, keys) := cache.keysFor instant t.keyUrl settings.retrievalTimeout
    (cache, answered, t.check settings appId now keys)

end LoginGate.Nintendo
