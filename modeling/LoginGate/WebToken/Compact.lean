/-
# Compact web tokens

A signed token is three parts in base64 for URLs with dots between them: header, claims and
signature.  The signature covers the text of the first two (`Compact.signed`).  Claims are read as
the record that is asked for and, besides, as the registered claims, whose types are checked
loosely.
-/
import LoginGate.Cipher.Hmac
import LoginGate.Json.Passable
import LoginGate.Json.Writer
import LoginGate.Text.Split
import LoginGate.WebToken.Header

namespace LoginGate.WebToken

open Json

/-! ## 1. The three parts -/

/-- The encoded parts of a token. -/
structure Compact where
  header : List Char
  claims : List Char
  signature : List Char
  deriving DecidableEq, Repr

namespace Compact

/-- The text of a token. -/
def write (t : Compact) : List Char := t.header ++ '.' :: t.claims ++ '.' :: t.signature

/-- The parts of a token, cut at its last two dots. -/
def ofChars? (cs : List Char) : Option Compact := do
  let (signed, signature) ← Text.cutLast '.' cs
  let (header, claims) ← Text.cutLast '.' signed
  some { header, claims, signature }

/-- The bytes that the signature covers. -/
def signed (t : Compact) : List UInt8 := Text.Utf8.encode (t.header ++ '.' :: t.claims)

/-- The header. -/
def header? (t : Compact) : Option Header :=
  (Text.Base64.decodeUrl? t.header).bind (decodeBytes? Header.decoder)

end Compact

/-! ## 2. Registered claims -/

/-- Whether what stands under a claim for a time can be passed over; reading goes no further than
the opening bracket of an array or an object. -/
def isLooseTime : Tree → Bool
  | .number n => n.isPassable
  | .string raw => isPassableText raw
  | .array items => items.isEmpty
  | .object members => members.isEmpty
  | _ => true

/-- Whether what stands under the claim for the subject can be passed over; reading does not begin
with arrays and objects. -/
def isLooseText : Tree → Bool
  | .number n => n.isPassable
  | .string raw => isPassableText raw
  | .array _ | .object _ => false
  | _ => true

/-- Reads the registered claims. -/
def registeredDecoder : Decoder Unit := fun d t => do
  match ← Decoder.record
      [⟨"exp", false⟩, ⟨"nbf", false⟩, ⟨"sub", false⟩, ⟨"iss", false⟩, ⟨"aud", false⟩] d t with
  | (d, [expires, notBefore, subject, issuer, audience]) =>
    if expires.all isLooseTime && notBefore.all isLooseTime && subject.all isLooseText &&
        issuer.all (·.isPassable d) && audience.all (·.isPassable d) then some ()
    else none
  | _ => none

/-- Reads the claims of a token. -/
def Compact.claims? {α : Type} (decoder : Decoder α) (t : Compact) : Option α := do
  let bytes ← Text.Base64.decodeUrl? t.claims
  let claims ← decodeBytes? decoder bytes
  let _ ← decodeBytes? registeredDecoder bytes
  some claims

/-! ## 3. Signatures -/

/-- The signature of bytes under a shared key, as it is written. -/
def sharedKeySignature (key signed : List UInt8) : List Char :=
  Text.Base64.encodeUrl (Cipher.Hmac.tag key signed)

/-- A token with claims, signed with a shared key. -/
def sign (key : List UInt8) (claims : Value) : Compact :=
  let unsigned : Compact :=
    { header := Text.Base64.encodeUrl (Text.Utf8.bytes Header.sharedKeyText)
      claims := Text.Base64.encodeUrl (Text.Utf8.encode claims.write)
      signature := [] }
  { unsigned with signature := sharedKeySignature key unsigned.signed }

/-- The claims of a token that is signed with a shared key. -/
def Compact.openShared? {α : Type} (decoder : Decoder α) (key : List UInt8) (t : Compact) :
    Option α := do
  let header ← t.header?
  if header.algorithm = .hs256 && t.signature = sharedKeySignature key t.signed then
    t.claims? decoder
  else none

/-- The claims of a token that is signed for a published key. -/
def Compact.openPublished? {α : Type} (decoder : Decoder α) (key : WebKey.Verifier) (t : Compact) :
    Option α := do
  let header ← t.header?
  match header.algorithm, key with
  | .rs256, .rsa key =>
    let signature ← Text.Base64.decodeUrl? t.signature
    if Cipher.RsaSignature.verify key t.signed signature then t.claims? decoder else none
  | _, _ => none

end LoginGate.WebToken
