/-
# Headers of web tokens

What a signed token says about its signature: the algorithm, and where the key is published under
which id.
-/
import LoginGate.WebToken.Key

namespace LoginGate.WebToken

open Json

/-- A signature algorithm. -/
inductive Algorithm where
  | hs256
  | hs384
  | hs512
  | es256
  | es384
  | rs256
  | rs384
  | rs512
  | ps256
  | ps384
  | ps512
  | edDsa
  deriving DecidableEq, Repr

namespace Algorithm

/-- The algorithms with their names. -/
def names : List (String × Algorithm) :=
  [("HS256", hs256), ("HS384", hs384), ("HS512", hs512), ("ES256", es256), ("ES384", es384),
    ("RS256", rs256), ("RS384", rs384), ("RS512", rs512), ("PS256", ps256), ("PS384", ps384),
    ("PS512", ps512), ("EdDSA", edDsa)]

/-- Reads the name of an algorithm. -/
def decoder : Decoder Algorithm := Decoder.unitVariant false fun s => Entries.get? s names

end Algorithm

/-- The parts of a header that are used. -/
structure Header where
  algorithm : Algorithm
  /-- The URL of the key set. -/
  keyUrl : Option String := none
  /-- The id of the key in its set. -/
  keyId : Option String := none
  deriving DecidableEq, Repr

namespace Header

/-- The fields of a header. -/
def fields : List Decoder.Field :=
  [⟨"typ", false⟩, ⟨"alg", false⟩, ⟨"cty", false⟩, ⟨"jku", false⟩, ⟨"jwk", false⟩, ⟨"kid", false⟩,
    ⟨"x5u", false⟩, ⟨"x5c", false⟩, ⟨"x5t", false⟩, ⟨"x5t#S256", false⟩]

/-- Reads a header.  In an array all fields are given. -/
def decoder : Decoder Header := fun d t => do
  match ← Decoder.record fields d t with
  | (d, [kind, algorithm, content, keyUrl, key, keyId, url, chain, print, print256]) =>
    let _ ← Decoder.nullable Decoder.text d kind
    let algorithm ← Decoder.required Algorithm.decoder d algorithm
    let _ ← Decoder.nullable Decoder.text d content
    let keyUrl ← Decoder.nullable Decoder.text d keyUrl
    let _ ← Decoder.nullable WebKey.decoder d key
    let keyId ← Decoder.nullable Decoder.text d keyId
    let _ ← Decoder.nullable Decoder.text d url
    let _ ← Decoder.nullable (Decoder.list Decoder.text) d chain
    let _ ← Decoder.nullable Decoder.text d print
    let _ ← Decoder.nullable Decoder.text d print256
    some { algorithm, keyUrl, keyId }
  | _ => none

/-- The header of tokens that are signed with a shared key. -/
def sharedKeyText : String := "\x7b\"typ\":\"JWT\",\"alg\":\"HS256\"\x7d"

end Header

end LoginGate.WebToken
