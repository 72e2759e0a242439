/-
# Sealed tokens

A sealed token is the base64 of a tag, an initial counter and a ciphertext.  The ciphertext hides a
signed web token with the claims, and the tag covers counter and ciphertext.  `KeyRing.sealClaims`
uses the primary set of a ring, and `KeyRing.verify` opens a token with the first set whose tag
fits.
-/
import LoginGate.Cipher.CounterMode
import LoginGate.Token.Claims
import LoginGate.Token.Keys
import LoginGate.WebToken.Compact

namespace LoginGate

/-! ## 1. Rejections -/

/-- The step that rejected a token. -/
inductive TokenStep where
  | base64
  | length
  | tag
  | utf8
  | signature
  | appId
  deriving DecidableEq, Repr

/-- The name of a step in logs. -/
def TokenStep.name : TokenStep → String
  | base64 => "base64"
  | length => "length"
  | tag => "mac"
  | utf8 => "utf8"
  | signature => "signature"
  | appId => "app id"

/-- Why a token is not accepted. -/
inductive TokenRejection where
  | invalid (step : TokenStep)
  | expired
  deriving DecidableEq, Repr

/-- The wording for clients, which does not tell the step. -/
def TokenRejection.message : TokenRejection → String
  | invalid _ => "Token invalid"
  | expired => "Token expired"

/-! ## 2. Envelopes -/

/-- The bytes of a sealed token. -/
structure Envelope where
  tag : List UInt8
  iv : List UInt8
  ciphertext : List UInt8
  deriving DecidableEq, Repr

namespace Envelope

/-- The length of a tag. -/
def tagLength : Nat := 32

/-- The length of an initial counter. -/
def ivLength : Nat := 16

/-- The text of an envelope. -/
def write (e : Envelope) : String :=
  String.ofList (Text.Base64.encode (e.tag ++ (e.iv ++ e.ciphertext)))

/-- Cuts the bytes of an envelope; there has to be a ciphertext. -/
def ofBytes? (bs : List UInt8) : Option Envelope :=
  if bs.length ≤ tagLength + ivLength then none
  else
    let rest := bs.drop tagLength
    some
      { tag := bs.take tagLength, iv := rest.take ivLength, ciphertext := rest.drop ivLength }

/-- Reads the text of an envelope, with blanks around it. -/
def parse (token : String) : Except TokenRejection Envelope :=
  match Text.Base64.decode? (Text.trimChars token.toList) with
  | none => .error (.invalid .base64)
  | some bs =>
    match ofBytes? bs with
    | none => .error (.invalid .length)
    | some e => .ok e

end Envelope

/-- The tag of a counter and a ciphertext. -/
def KeySet.tag (keys : KeySet) (iv ciphertext : List UInt8) : List UInt8 :=
  Cipher.Hmac.tag keys.tagKey (iv ++ ciphertext)

/-- Whether the tag of an envelope fits. -/
def KeySet.fits (keys : KeySet) (e : Envelope) : Bool := keys.tag e.iv e.ciphertext == e.tag

/-- What an envelope hides. -/
def KeySet.decrypt (keys : KeySet) (e : Envelope) : List UInt8 :=
  Cipher.CounterMode.apply keys.encryptionKey e.iv e.ciphertext

namespace KeyRing

/-! ## 3. Sealing and opening -/

/-- Seals claims with the primary set, from an initial counter. -/
def sealClaims (ring : KeyRing) (iv : List UInt8) (claims : TokenClaims) : String :=
  let keys := ring.primary
  let token := WebToken.sign keys.signatureKey claims.toJson
  let ciphertext :=
    Cipher.CounterMode.apply keys.encryptionKey iv (Text.Utf8.encode token.write)
  Envelope.write { tag := keys.tag iv ciphertext, iv, ciphertext }

/-- The claims of a web token that some set of the ring has signed. -/
def signedClaims? (ring : KeyRing) (token : List Char) : Option TokenClaims := do
  let token ← WebToken.Compact.ofChars? token
  ring.sets.findSome? fun keys => token.openShared? TokenClaims.decoder keys.signatureKey

/-- The claims that a token hides, whoever they are for and whenever they end. -/
def openToken (ring : KeyRing) (token : String) : Except TokenRejection TokenClaims := do
  let e ← Envelope.parse token
  match ring.sets.find? (·.fits e) with
  | none => .error (.invalid .tag)
  | some keys =>
    match Text.Utf8.decode? (keys.decrypt e) with
    | none => .error (.invalid .utf8)
    | some token =>
      match ring.signedClaims? token with
      | none => .error (.invalid .signature)
      | some claims => .ok claims

/-- The claims of a token that is valid at a time, for an application if one is expected. -/
def verify (ring : KeyRing) (token : String) (expectedAppId : Option String) (now : Int) :
    Except TokenRejection TokenClaims := do
  let claims ← ring.openToken token
  if expectedAppId.any (· ≠ claims.appId) then .error (.invalid .appId)
  else if claims.expires < now then .error .expired
  else .ok claims

end KeyRing

end LoginGate
