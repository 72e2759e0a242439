/-
# Headers are read back

A header that is an object of texts is read as what stands under the names of its fields
(`Header.decoder_tree`).  Two headers are written so: the one of tokens that are signed with a shared
key, and the one of tokens that refer to a published key.
-/
import LoginGate.Json.Writer
import LoginGate.Proofs.Json.Records
import LoginGate.WebToken.Header

namespace LoginGate.WebToken

open Json
open Text (Utf8.encode Utf8.bytes)

theorem Algorithm.decoder_tree {name : String} {algorithm : Algorithm}
    (h : Entries.get? name names = some algorithm) (depth : Nat) :
    decoder depth (Value.tree (.string name)) = some algorithm := by
  simp [decoder, Decoder.unitVariant, Decoder.variant, Value.tree, text?_escaped,
    Decoder.holdsNothing, h]

namespace Header

/-! ## 1. Any header -/

/-- **A header is read** from an object in which the type, the algorithm, the URL and the id of the
key are texts, and which has no other field of headers. -/
theorem decoder_tree {depth : Nat} (hd : depth ≠ 0) {ms : Members} (hnd : (Entries.keys ms).Nodup)
    {header : Header} {kind : Option String} {name : String}
    (hkind : Entries.get? "typ" ms = kind.map .string)
    (halgorithm : Entries.get? "alg" ms = some (.string name))
    (hname : Entries.get? name Algorithm.names = some header.algorithm)
    (hurl : Entries.get? "jku" ms = header.keyUrl.map .string)
    (hid : Entries.get? "kid" ms = header.keyId.map .string)
    (hothers : ∀ other ∈ ["cty", "jwk", "x5u", "x5c", "x5t", "x5t#S256"],
      Entries.get? other ms = none) :
    decoder depth (Value.tree (.object ms)) = some header := by
  have hparts : (fields.map fun f => (Entries.get? f.name ms).map Value.tree) =
      [(kind.map Value.string).map Value.tree, some (Value.tree (.string name)), none,
        (header.keyUrl.map Value.string).map Value.tree, none,
        (header.keyId.map Value.string).map Value.tree, none, none, none, none] := by
    simp only [List.forall_mem_cons] at hothers
    obtain ⟨hcontent, hkey, hchainUrl, hchain, hprint, hprint256, -⟩ := hothers
    simp [fields, hkind, halgorithm, hurl, hid, hcontent, hkey, hchainUrl, hchain, hprint, hprint256]
  rw [decoder, record_tree fields hd hnd, hparts]
  simp only [Option.bind_eq_bind, Option.bind_some, Decoder.required, nullable_text_tree,
    Algorithm.decoder_tree hname]
  rfl

/-! ## 2. Shared keys -/

/-- The header of tokens that are signed with a shared key, as a value. -/
def sharedKey : Value := .object [("typ", .string "JWT"), ("alg", .string "HS256")]

theorem write_sharedKey : sharedKey.write = sharedKeyText.toList := by decide

theorem decodeBytes?_sharedKeyText :
    decodeBytes? decoder (Utf8.bytes sharedKeyText) = some { algorithm := .hs256 } := by
  have hexact : sharedKey.isExact 1 = true := by decide
  rw [Text.Utf8.bytes_eq_encode, ← write_sharedKey, decodeBytes?_write _ hexact, sharedKey]
  have hkind : Entries.get? "typ" [("typ", Value.string "JWT"), ("alg", Value.string "HS256")] =
      (some "JWT").map Value.string := rfl
  exact decoder_tree (by decide) (by decide) hkind rfl rfl rfl rfl (by decide)

/-! ## 3. Published keys -/

/-- The header of tokens that are signed for a key with an id that is published under a URL. -/
def publishedKey (keyUrl keyId : String) : Value :=
  .object [("typ", .string "JWT"), ("alg", .string "RS256"), ("jku", .string keyUrl),
    ("kid", .string keyId)]

theorem decodeBytes?_publishedKey (keyUrl keyId : String) :
    decodeBytes? decoder (Utf8.encode (publishedKey keyUrl keyId).write) =
      some { algorithm := .rs256, keyUrl := some keyUrl, keyId := some keyId } := by
  have hexact : (publishedKey keyUrl keyId).isExact 1 = true := by
    simp [publishedKey, Value.isExact, membersExact, Entries.keys]
  have hkind : Entries.get? "typ" [("typ", Value.string "JWT"), ("alg", .string "RS256"),
      ("jku", .string keyUrl), ("kid", .string keyId)] = (some "JWT").map Value.string := rfl
  rw [decodeBytes?_write _ hexact, publishedKey]
  refine decoder_tree (by decide) ?_ hkind rfl rfl rfl rfl ?_
  · simp [Entries.keys]
  · simp [Entries.get?]

end Header

end LoginGate.WebToken
