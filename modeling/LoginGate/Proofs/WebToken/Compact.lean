/-
# What a compact web token says

A text presents a web token with a header when it is three parts with dots between them, the first
of which is the base64 of a header (`Presents`).  What is signed is said without regard to how tokens
are read: with a shared key in `SignedText`, for a published key in `Signs`.  A payload has to be
read twice, as the record that is asked for and as registered claims (`Reads`).

A key that is published may be one that was made for the very token (`published`), so a header and a
payload of any kind can be signed for some key.
-/
import LoginGate.Proofs.Cipher.RsaSignature
import LoginGate.Proofs.Json.Records
import LoginGate.Proofs.Text.Base64
import LoginGate.WebToken.Compact

namespace LoginGate.WebToken

open Json
open Text (Utf8.encode)
open Text.Base64 (encodeUrl)

variable {α : Type} {key : List UInt8} {text : List Char} {payload : List UInt8}

/-! ## 1. Parts -/

theorem Compact.ofChars?_eq_some_iff {t : Compact} :
    Compact.ofChars? text = some t ↔ text = t.write ∧ '.' ∉ t.claims ∧ '.' ∉ t.signature := by
  rw [ofChars?, write]
  constructor
  · intro h
    obtain ⟨⟨signed, signature⟩, hs, h⟩ := Option.bind_eq_some_iff.mp h
    obtain ⟨⟨header, claims⟩, hc, h⟩ := Option.bind_eq_some_iff.mp h
    cases h
    obtain ⟨rfl, hsignature⟩ := Text.cutLast_eq_some_iff.mp hs
    obtain ⟨rfl, hclaims⟩ := Text.cutLast_eq_some_iff.mp hc
    exact ⟨rfl, hclaims, hsignature⟩
  · rintro ⟨rfl, hclaims, hsignature⟩
    refine Option.bind_eq_some_iff.mpr ⟨(t.header ++ '.' :: t.claims, t.signature),
      Text.cutLast_eq_some_iff.mpr ⟨rfl, hsignature⟩, ?_⟩
    exact Option.bind_eq_some_iff.mpr ⟨(t.header, t.claims),
      Text.cutLast_eq_some_iff.mpr ⟨rfl, hclaims⟩, rfl⟩

/-- **A text presents a token with a header**: header, claims and signature with dots between them,
and the header is base64 that reads as the given one. -/
structure Presents (text : List Char) (t : Compact) (header : Header) : Prop where
  written : text = t.write
  claims_dotless : '.' ∉ t.claims
  signature_dotless : '.' ∉ t.signature
  head : ∃ bytes, t.header = encodeUrl bytes ∧ decodeBytes? Header.decoder bytes = some header

theorem presents_iff {t : Compact} {header : Header} :
    Presents text t header ↔ Compact.ofChars? text = some t ∧ t.header? = some header := by
  rw [Compact.ofChars?_eq_some_iff, Compact.header?, Option.bind_eq_some_iff]
  constructor
  · rintro ⟨hwritten, hclaims, hsignature, bytes, hbytes, hreads⟩
    exact ⟨⟨hwritten, hclaims, hsignature⟩, bytes,
      Text.Base64.decodeUrl?_eq_some_iff.mpr hbytes, hreads⟩
  · rintro ⟨⟨hwritten, hclaims, hsignature⟩, bytes, hbytes, hreads⟩
    exact ⟨hwritten, hclaims, hsignature, bytes,
      Text.Base64.decodeUrl?_eq_some_iff.mp hbytes, hreads⟩

/-- A payload is read as the record that is asked for and as registered claims. -/
def Reads (decoder : Decoder α) (payload : List UInt8) (claims : α) : Prop :=
  decodeBytes? decoder payload = some claims ∧ decodeBytes? registeredDecoder payload = some ()

theorem Compact.claims?_eq_some_iff {decoder : Decoder α} {t : Compact} {claims : α} :
    t.claims? decoder = some claims ↔
      ∃ payload, Text.Base64.decodeUrl? t.claims = some payload ∧ Reads decoder payload claims := by
  simp only [claims?, Reads, Option.bind_eq_bind, Option.bind_eq_some_iff, Option.some.injEq]
  constructor
  · rintro ⟨payload, hpayload, c, hc, _, hregistered, rfl⟩
    exact ⟨payload, hpayload, hc, hregistered⟩
  · rintro ⟨payload, hpayload, hc, hregistered⟩
    exact ⟨payload, hpayload, claims, hc, (), hregistered, rfl⟩

/-! ## 2. Shared keys -/

/-- A text is the web token of a payload, signed with a shared key: a header for that algorithm, the
payload, and the signature of both. -/
inductive SignedText (key : List UInt8) (text : List Char) (payload : List UInt8) : Prop where
  | intro (head : List UInt8) (header : Header)
      (reads : decodeBytes? Header.decoder head = some header)
      (algorithm : header.algorithm = .hs256)
      (written : text = encodeUrl head ++ '.' :: encodeUrl payload ++ '.' ::
        encodeUrl (Cipher.Hmac.tag key (Utf8.encode (encodeUrl head ++ '.' :: encodeUrl payload))))

/-- **A signed text** by its parts. -/
theorem signedText_iff :
    SignedText key text payload ↔
      ∃ t, Compact.ofChars? text = some t ∧
        (∃ header, t.header? = some header ∧ header.algorithm = .hs256) ∧
        t.signature = sharedKeySignature key t.signed ∧
        Text.Base64.decodeUrl? t.claims = some payload := by
  constructor
  · rintro ⟨head, header, reads, algorithm, written⟩
    generalize hs : Cipher.Hmac.tag key (Utf8.encode (encodeUrl head ++ '.' :: encodeUrl payload)) =
      signature at written
    refine ⟨⟨encodeUrl head, encodeUrl payload, encodeUrl signature⟩,
      Compact.ofChars?_eq_some_iff.mpr ⟨written, Text.Base64.dot_not_mem_encodeUrl payload,
        Text.Base64.dot_not_mem_encodeUrl signature⟩, ⟨header, ?_, algorithm⟩, ?_,
      Text.Base64.decodeUrl?_eq_some_iff.mpr rfl⟩
    · rw [Compact.header?, Text.Base64.decodeUrl?_eq_some_iff.mpr rfl, Option.bind_some, reads]
    · rw [sharedKeySignature, Compact.signed, hs]
  · rintro ⟨t, ht, ⟨header, hheader, algorithm⟩, hsignature, hpayload⟩
    obtain ⟨head, hhead, reads⟩ := Option.bind_eq_some_iff.mp hheader
    refine ⟨head, header, reads, algorithm, ?_⟩
    rw [(Compact.ofChars?_eq_some_iff.mp ht).1, Compact.write, hsignature, sharedKeySignature,
      Compact.signed, Text.Base64.decodeUrl?_eq_some_iff.mp hhead,
      Text.Base64.decodeUrl?_eq_some_iff.mp hpayload]

/-- A signed text is the web token of one payload, whichever keys have signed it. -/
theorem SignedText.payload_unique {key' payload' : List UInt8} (h : SignedText key text payload)
    (h' : SignedText key' text payload') : payload = payload' := by
  obtain ⟨t, ht, -, -, hpayload⟩ := signedText_iff.mp h
  obtain ⟨t', ht', -, -, hpayload'⟩ := signedText_iff.mp h'
  rw [ht] at ht'
  cases ht'
  rw [hpayload] at hpayload'
  exact Option.some.inj hpayload'

theorem Compact.openShared?_eq_some_iff {decoder : Decoder α} {t : Compact} {claims : α} :
    t.openShared? decoder key = some claims ↔
      (∃ header, t.header? = some header ∧ header.algorithm = .hs256) ∧
        t.signature = sharedKeySignature key t.signed ∧ t.claims? decoder = some claims := by
  simp only [openShared?, Option.bind_eq_bind, Option.bind_eq_some_iff]
  constructor
  · rintro ⟨header, hheader, h⟩
    split at h
    · rename_i hc
      simp only [Bool.and_eq_true, decide_eq_true_eq] at hc
      exact ⟨⟨header, hheader, hc.1⟩, hc.2, h⟩
    · simp at h
  · rintro ⟨⟨header, hheader, halgorithm⟩, hsignature, hclaims⟩
    refine ⟨header, hheader, ?_⟩
    rw [if_pos (by simp [halgorithm, ← hsignature]), hclaims]

/-! ## 3. Published keys -/

/-- **A published key has signed a token**: it is for RSA, and the signature is base64 of one of the
other two parts. -/
def Signs (key : WebKey.Verifier) (t : Compact) : Prop :=
  ∃ rsaKey signature, key = .rsa rsaKey ∧ t.signature = encodeUrl signature ∧
    Cipher.RsaSignature.verify rsaKey t.signed signature = true

/-- **A token states claims**: its payload is base64 that reads as them. -/
def States (decoder : Decoder α) (t : Compact) (claims : α) : Prop :=
  ∃ payload, t.claims = encodeUrl payload ∧ Reads decoder payload claims

theorem Compact.openPublished?_eq_some_iff {decoder : Decoder α} {key : WebKey.Verifier}
    {t : Compact} {claims : α} :
    t.openPublished? decoder key = some claims ↔
      (∃ header, t.header? = some header ∧ header.algorithm = .rs256) ∧ Signs key t ∧
        States decoder t claims := by
  have hstates : t.claims? decoder = some claims ↔ States decoder t claims := by
    simp only [Compact.claims?_eq_some_iff, States, Text.Base64.decodeUrl?_eq_some_iff]
  rw [← hstates]
  simp only [openPublished?, Option.bind_eq_bind, Option.bind_eq_some_iff]
  constructor
  · rintro ⟨header, hheader, h⟩
    split at h
    · rename_i rsaKey halgorithm
      obtain ⟨signature, hsignature, h⟩ := Option.bind_eq_some_iff.mp h
      split at h
      · rename_i hverify
        exact ⟨⟨header, hheader, halgorithm⟩, ⟨rsaKey, signature, rfl,
          Text.Base64.decodeUrl?_eq_some_iff.mp hsignature, hverify⟩, h⟩
      · cases h
    · cases h
  · rintro ⟨⟨header, hheader, halgorithm⟩, ⟨rsaKey, signature, rfl, hsignature, hverify⟩, hclaims⟩
    refine ⟨header, hheader, ?_⟩
    rw [halgorithm]
    dsimp only
    rw [Text.Base64.decodeUrl?_eq_some_iff.mpr hsignature, Option.bind_some, if_pos hverify, hclaims]

/-! ## 4. Keys made for a token -/

/-- What is signed of a header and a payload. -/
def signedPart (head payload : List UInt8) : List UInt8 :=
  Utf8.encode (encodeUrl head ++ '.' :: encodeUrl payload)

/-- The token of a header and a payload, signed with the key that is made for it. -/
@[irreducible]
def published (head payload : List UInt8) : Compact :=
  { header := encodeUrl head
    claims := encodeUrl payload
    signature := encodeUrl (Cipher.RsaSignature.signatureFor (signedPart head payload)) }

/-- The key that is made for a token. -/
def ownKey (t : Compact) : WebKey.Verifier := .rsa (Cipher.RsaSignature.keyFor t.signed)

theorem claims_published (head payload : List UInt8) :
    (published head payload).claims = encodeUrl payload := by
  rw [published]

theorem signed_published (head payload : List UInt8) :
    (published head payload).signed = signedPart head payload := by
  rw [Compact.signed, published, signedPart]

/-- **A key that is made for a token has signed it.** -/
theorem signs_published (head payload : List UInt8) :
    Signs (ownKey (published head payload)) (published head payload) := by
  refine ⟨_, Cipher.RsaSignature.signatureFor (signedPart head payload), rfl, ?_, ?_⟩
  · rw [published]
  · rw [signed_published]
    exact Cipher.RsaSignature.verify_keyFor _

theorem presents_published {head : List UInt8} {header : Header}
    (h : decodeBytes? Header.decoder head = some header) (payload : List UInt8) :
    Presents (Text.trimChars (published head payload).write) (published head payload) header := by
  rw [published]
  generalize Cipher.RsaSignature.signatureFor (signedPart head payload) = signature
  have hpart (bs : List UInt8) : ∀ c ∈ encodeUrl bs, Text.isBlank c = false :=
    fun c => Text.Base64.isBlank_of_mem_encodeUrl
  have hdot : Text.isBlank '.' = false := by decide
  refine ⟨Text.trimChars_eq_self ?_, Text.Base64.dot_not_mem_encodeUrl payload,
    Text.Base64.dot_not_mem_encodeUrl signature, head, rfl, h⟩
  simp only [Compact.write, List.forall_mem_append, List.forall_mem_cons]
  exact ⟨⟨hpart head, hdot, hpart payload⟩, hdot, hpart signature⟩

theorem states_published_iff {decoder : Decoder α} {claims : α} (head : List UInt8) :
    States decoder (published head payload) claims ↔ Reads decoder payload claims := by
  rw [States, claims_published]
  constructor
  · rintro ⟨payload', hpayload, hreads⟩
    have hdecoded := Text.Base64.decodeUrl?_eq_some_iff.mpr hpayload
    rw [Text.Base64.decodeUrl?_eq_some_iff.mpr rfl] at hdecoded
    cases hdecoded
    exact hreads
  · exact fun hreads => ⟨payload, rfl, hreads⟩

end LoginGate.WebToken
