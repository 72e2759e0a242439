/-
# Published keys

Key sets as servers publish them: each key has an optional id and the parameters of its kind.  One
key of a set that cannot be read spoils the whole set, while a key without an id, or with parameters
that are no base64, is only left out (`publicKeys`).  Keys that are not for RSA are kept and verify
nothing.
-/
import LoginGate.Cipher.RsaSignature
import LoginGate.Json.Decode
import LoginGate.Text.Base64

namespace LoginGate

open Json

/-! ## 1. Keys -/

/-- The parameters of a published key, as text. -/
inductive WebKey.Params where
  | ellipticCurve (x y : String)
  | rsa (n e : String)
  | secret (k : String)
  | octetPair (x : String)
  deriving DecidableEq, Repr

/-- A published key. -/
structure WebKey where
  id : Option String
  params : WebKey.Params
  deriving DecidableEq, Repr

namespace WebKey

/-- The names of curves. -/
def curves : List String := ["P-256", "P-384", "P-521", "Ed25519"]

/-- The names of algorithms that a key may be meant for. -/
def algorithms : List String :=
  ["HS256", "HS384", "HS512", "ES256", "ES384", "RS256", "RS384", "RS512", "PS256", "PS384",
    "PS512", "EdDSA", "RSA1_5", "RSA-OAEP", "RSA-OAEP-256"]

/-! ## 2. Reading -/

/-- Reads one of the given names. -/
def nameDecoder (whole : Bool) (names : List String) : Decoder String :=
  Decoder.unitVariant whole fun s => if names.contains s then some s else none

/-- The fields that keys of all kinds share. -/
def sharedFields : List Decoder.Field :=
  [⟨"use", false⟩, ⟨"key_ops", false⟩, ⟨"alg", false⟩, ⟨"kid", false⟩, ⟨"x5u", false⟩,
    ⟨"x5c", false⟩, ⟨"x5t", false⟩, ⟨"x5t#S256", false⟩]

/-- Reads the shared fields and yields the id. -/
def sharedDecoder : Decoder (Option String) := fun d t => do
  match ← Decoder.record sharedFields d t with
  | (d, [usage, operations, algorithm, id, url, chain, print, print256]) =>
    let _ ← Decoder.nullable Decoder.text d usage
    let _ ← Decoder.nullable (Decoder.list Decoder.text) d operations
    let _ ← Decoder.nullable (nameDecoder true algorithms) d algorithm
    let id ← Decoder.nullable Decoder.text d id
    let _ ← Decoder.nullable Decoder.text d url
    let _ ← Decoder.nullable (Decoder.list Decoder.text) d chain
    let _ ← Decoder.nullable Decoder.text d print
    let _ ← Decoder.nullable Decoder.text d print256
    some id
  | _ => none

/-- Reads the texts of named fields of a key of a kind, a curve among them if the kind has one. -/
def kindDecoder (kind : String) (curve : Bool) (names : List String) : Decoder (List String) :=
  fun d t => do
    let fields : List Decoder.Field := names.map fun n => ⟨n, false⟩
    let curveField : List Decoder.Field := if curve then [⟨"crv", false⟩] else []
    match ← Decoder.record (⟨"kty", false⟩ :: curveField ++ fields) d t with
    | (d, kty :: parts) =>
      let _ ← Decoder.required (nameDecoder false [kind]) d kty
      let texts ← if curve then do
          let _ ← Decoder.required (nameDecoder false curves) d (parts.head?.join)
          some parts.tail
        else some parts
      texts.mapM (Decoder.required Decoder.text d)
    | _ => none

/-- Reads the parameters of a key; the kinds are tried one after another. -/
def paramsDecoder : Decoder Params := fun d t =>
  match kindDecoder "EC" true ["x", "y"] d t with
  | some [x, y] => some (.ellipticCurve x y)
  | _ =>
    match kindDecoder "RSA" false ["n", "e"] d t with
    | some [n, e] => some (.rsa n e)
    | _ =>
      match kindDecoder "oct" false ["k"] d t with
      | some [k] => some (.secret k)
      | _ =>
        match kindDecoder "OKP" true ["x"] d t with
        | some [x] => some (.octetPair x)
        | _ => none

/-- Reads a key.  It is read as a whole before its kind is known, so every part of it has to be in
bounds. -/
def decoder : Decoder WebKey := fun d t =>
  match t with
  | .object _ => do
    let _ ← Value.ofTree? d t
    let id ← sharedDecoder d t
    let params ← paramsDecoder d t
    some { id, params }
  | _ => none

/-- Reads a set of keys. -/
def setDecoder : Decoder (List WebKey) := fun d t => do
  match ← Decoder.record [⟨"keys", false⟩] d t with
  | (d, [keys]) => Decoder.required (Decoder.list decoder) d keys
  | _ => none

/-! ## 3. Verifying keys -/

/-- A key that signatures are checked with. -/
inductive Verifier where
  | rsa (key : Cipher.RsaSignature.PublicKey)
  /-- A key of another kind; it verifies nothing. -/
  | other
  deriving DecidableEq, Repr

/-- The bytes of a text in base64 for URLs. -/
def urlBytes? (s : String) : Option (List UInt8) := Text.Base64.decodeUrl? s.toList

/-- The verifying key of a published key. -/
def verifier? (key : WebKey) : Option Verifier :=
  match key.params with
  | .rsa n e => do
    let modulus ← urlBytes? n
    let exponent ← urlBytes? e
    some (.rsa { modulus, exponent })
  | .ellipticCurve x y => do
    let _ ← urlBytes? x
    let _ ← urlBytes? y
    some .other
  | .octetPair x => (urlBytes? x).map fun _ => .other
  | .secret k => (Text.Base64.decode? k.toList).map fun _ => .other

/-- The verifying keys of a set by their ids, the last of equal ids winning. -/
def publicKeys (keys : List WebKey) : List (String × Verifier) :=
  Entries.ofPairs (keys.filterMap fun key => do
    let id ← key.id
    let verifier ← key.verifier?
    some (id, verifier))

/-- Reads the text of a key set. -/
def parseSet? (body : String) : Option (List WebKey) := decode? setDecoder body

end WebKey

end LoginGate
