/-
# Which tokens open

What it means that a token carries a payload is said without regard to how tokens are read
(`KeyRing.Carries`): the text is the base64 of a tag, a counter and a ciphertext, the tag fits a set
of the ring, and the first such set finds the web token of the payload behind it, signed by some set
(`WebToken.SignedText`).  A ring opens a token exactly when it carries a payload that reads as
claims (`openToken_eq_ok_iff`), and what is sealed carries what was sealed (`carries_sealBytes`).

Each step of opening is turned into an equation between texts or bytes, where the codecs say that
reading accepts what writing produces and nothing else; what is left is to put the equations
together.
-/
import LoginGate.Proofs.Token.Record
import LoginGate.Proofs.WebToken.Compact
import LoginGate.Proofs.WebToken.Header
import LoginGate.Token.Seal

namespace LoginGate

open Json
open Text (Utf8.encode)
open Text.Base64 (encodeUrl)

/-! ## 1. Signed claims -/

open WebToken

/-- **The claims of a signed text** are those that its payload reads as. -/
theorem KeyRing.signedClaims?_eq_some_iff {ring : KeyRing} {text : List Char}
    {claims : TokenClaims} :
    ring.signedClaims? text = some claims ↔
      ∃ payload, (∃ keys ∈ ring.sets, SignedText keys.signatureKey text payload) ∧
        Reads TokenClaims.decoder payload claims := by
  rw [signedClaims?]
  constructor
  · intro h
    obtain ⟨t, ht, h⟩ := Option.bind_eq_some_iff.mp h
    obtain ⟨keys, hkeys, h⟩ := List.exists_of_findSome?_eq_some h
    obtain ⟨hheader, hsignature, hclaims⟩ := Compact.openShared?_eq_some_iff.mp h
    obtain ⟨payload, hpayload, hreads⟩ := Compact.claims?_eq_some_iff.mp hclaims
    exact ⟨payload, ⟨keys, hkeys, signedText_iff.mpr ⟨t, ht, hheader, hsignature, hpayload⟩⟩,
      hreads⟩
  · rintro ⟨payload, ⟨keys, hkeys, hsigned⟩, hreads⟩
    obtain ⟨t, ht, hheader, hsignature, hpayload⟩ := signedText_iff.mp hsigned
    have hclaims : t.claims? TokenClaims.decoder = some claims :=
      Compact.claims?_eq_some_iff.mpr ⟨payload, hpayload, hreads⟩
    have hopens := Compact.openShared?_eq_some_iff.mpr ⟨hheader, hsignature, hclaims⟩
    refine Option.bind_eq_some_iff.mpr ⟨t, ht, ?_⟩
    -- An earlier set may have signed the text too; it then finds the same claims.
    cases hfind : ring.sets.findSome? fun keys =>
        t.openShared? TokenClaims.decoder keys.signatureKey with
    | none =>
      rw [List.findSome?_eq_none_iff.mp hfind keys hkeys] at hopens
      cases hopens
    | some found =>
      obtain ⟨keys', -, h'⟩ := List.exists_of_findSome?_eq_some hfind
      have hfound := (Compact.openShared?_eq_some_iff.mp h').2.2
      rw [hclaims] at hfound
      exact hfound.symm

/-! ## 2. Envelopes -/

/-- Bytes are cut where the lengths of tag and counter say. -/
theorem Envelope.ofBytes?_eq_some_iff {bs : List UInt8} {e : Envelope} :
    Envelope.ofBytes? bs = some e ↔
      e.tag.length = tagLength ∧ e.iv.length = ivLength ∧ e.ciphertext ≠ [] ∧
        bs = e.tag ++ (e.iv ++ e.ciphertext) := by
  rw [ofBytes?]
  constructor
  · intro h
    split at h
    · simp at h
    · rename_i hlong
      cases h
      rw [tagLength, ivLength] at hlong
      refine ⟨?_, ?_, ?_, ?_⟩
      · rw [List.length_take, tagLength]
        omega
      · rw [List.length_take, List.length_drop, tagLength, ivLength]
        omega
      · rw [← List.length_pos_iff, List.length_drop, List.length_drop, tagLength, ivLength]
        omega
      · rw [List.take_append_drop, List.take_append_drop]
  · rintro ⟨htag, hiv, hciphertext, rfl⟩
    have hpos := List.length_pos_iff.mpr hciphertext
    rw [if_neg (by simp only [List.length_append]; omega)]
    simp [List.drop_left' htag, List.take_left' htag, List.drop_left' hiv, List.take_left' hiv]

/-- **A text is an envelope** in base64, with blanks around it. -/
theorem Envelope.parse_eq_ok_iff {token : String} {e : Envelope} :
    Envelope.parse token = .ok e ↔
      e.tag.length = tagLength ∧ e.iv.length = ivLength ∧ e.ciphertext ≠ [] ∧
        Text.trimChars token.toList = Text.Base64.encode (e.tag ++ (e.iv ++ e.ciphertext)) := by
  rw [parse]
  constructor
  · intro h
    split at h
    · simp at h
    · rename_i bs hbs
      split at h
      · simp at h
      · rename_i e' he
        cases h
        obtain ⟨htag, hiv, hciphertext, rfl⟩ := ofBytes?_eq_some_iff.mp he
        exact ⟨htag, hiv, hciphertext, Text.Base64.decode?_eq_some_iff.mp hbs⟩
  · rintro ⟨htag, hiv, hciphertext, htext⟩
    rw [Text.Base64.decode?_eq_some_iff.mpr htext]
    dsimp only
    rw [ofBytes?_eq_some_iff.mpr ⟨htag, hiv, hciphertext, rfl⟩]

/-- **An envelope is read back** from its text. -/
theorem Envelope.parse_write {e : Envelope} (htag : e.tag.length = tagLength)
    (hiv : e.iv.length = ivLength) (hciphertext : e.ciphertext ≠ []) :
    Envelope.parse e.write = .ok e := by
  refine parse_eq_ok_iff.mpr ⟨htag, hiv, hciphertext, ?_⟩
  rw [write, String.toList_ofList, Text.Base64.trimChars_encode]

theorem Envelope.parse_error {token : String} {r : TokenRejection}
    (h : Envelope.parse token = .error r) : ∃ step, r = .invalid step := by
  rw [parse] at h
  repeat' split at h
  all_goals cases h
  all_goals exact ⟨_, rfl⟩

/-! ## 3. Opening -/

namespace KeyRing

variable {ring : KeyRing} {token : String} {payload : List UInt8} {claims : TokenClaims}

/-- **A token carries a payload.**  With blanks around it, it is the base64 of a tag, a counter and
a ciphertext; the tag is that of counter and ciphertext under a set of the ring, and under none
before it; and that set decrypts the ciphertext to the web token of the payload, signed by a set of
the ring. -/
inductive Carries (ring : KeyRing) (token : String) (payload : List UInt8) : Prop where
  | intro (tag iv ciphertext : List UInt8) (passed : List KeySet) (keys : KeySet)
      (rest : List KeySet) (text : List Char) (signer : KeySet)
      (tag_length : tag.length = 32) (iv_length : iv.length = 16) (nonempty : ciphertext ≠ [])
      (written : Text.trimChars token.toList = Text.Base64.encode (tag ++ (iv ++ ciphertext)))
      (sets : ring.sets = passed ++ keys :: rest)
      (fits : tag = Cipher.Hmac.tag keys.tagKey (iv ++ ciphertext))
      (first : ∀ k ∈ passed, tag ≠ Cipher.Hmac.tag k.tagKey (iv ++ ciphertext))
      (decrypts : Cipher.CounterMode.apply keys.encryptionKey iv ciphertext = Utf8.encode text)
      (signer_mem : signer ∈ ring.sets)
      (signed : SignedText signer.signatureKey text payload)

theorem fits_iff {keys : KeySet} {e : Envelope} :
    keys.fits e = true ↔ e.tag = Cipher.Hmac.tag keys.tagKey (e.iv ++ e.ciphertext) := by
  rw [KeySet.fits, KeySet.tag, beq_iff_eq]
  exact eq_comm

/-- **A token carries a payload** when the reader's steps find it: the envelope, the first set of the
ring whose tag fits, and behind them a text that some set has signed with the payload. -/
theorem carries_iff :
    ring.Carries token payload ↔
      ∃ e keys text, Envelope.parse token = .ok e ∧ ring.sets.find? (·.fits e) = some keys ∧
        keys.decrypt e = Utf8.encode text ∧
        ∃ signer ∈ ring.sets, SignedText signer.signatureKey text payload := by
  constructor
  · rintro ⟨tag, iv, ciphertext, passed, keys, rest, text, signer, htag, hiv, hciphertext, hwritten,
      hsets, hfits, hfirst, hdecrypts, hmem, hsigned⟩
    refine ⟨⟨tag, iv, ciphertext⟩, keys, text,
      Envelope.parse_eq_ok_iff.mpr ⟨htag, hiv, hciphertext, hwritten⟩, ?_, hdecrypts, signer, hmem,
      hsigned⟩
    refine List.find?_eq_some_iff_append.mpr ⟨fits_iff.mpr hfits, passed, rest, hsets, ?_⟩
    intro k hk
    rw [Bool.not_eq_true', ← Bool.not_eq_true]
    exact fun hk' => hfirst k hk (fits_iff.mp hk')
  · rintro ⟨e, keys, text, hparse, hfind, hdecrypts, signer, hmem, hsigned⟩
    obtain ⟨htag, hiv, hciphertext, hwritten⟩ := Envelope.parse_eq_ok_iff.mp hparse
    obtain ⟨hfits, passed, rest, hsets, hfirst⟩ := List.find?_eq_some_iff_append.mp hfind
    refine ⟨e.tag, e.iv, e.ciphertext, passed, keys, rest, text, signer, htag, hiv, hciphertext,
      hwritten, hsets, fits_iff.mp hfits, ?_, hdecrypts, hmem, hsigned⟩
    intro k hk hk'
    have hforeign := hfirst k hk
    rw [fits_iff.mpr hk'] at hforeign
    cases hforeign

/-- Opening a token that carries a payload comes down to the claims of a text that is signed with
the payload. -/
theorem exists_of_carries (h : ring.Carries token payload) :
    ∃ text, (∃ signer ∈ ring.sets, SignedText signer.signatureKey text payload) ∧
      ring.openToken token =
        (ring.signedClaims? text).elim (.error (.invalid .signature)) .ok := by
  obtain ⟨e, keys, text, hparse, hfind, hdecrypts, hsigned⟩ := carries_iff.mp h
  have hdecode : Text.Utf8.decode? (keys.decrypt e) = some text :=
    Text.Utf8.decode?_eq_some_iff.mpr hdecrypts
  refine ⟨text, hsigned, ?_⟩
  simp only [openToken, hparse, bind, Except.bind, hfind, hdecode]
  cases ring.signedClaims? text <;> rfl

/-- What opens carries a payload that reads as the claims. -/
theorem carries_of_openToken (h : ring.openToken token = .ok claims) :
    ∃ payload, ring.Carries token payload ∧ Reads TokenClaims.decoder payload claims := by
  rw [openToken] at h
  cases hparse : Envelope.parse token with
  | error r =>
    rw [hparse] at h
    cases h
  | ok e =>
    rw [hparse] at h
    dsimp only [bind, Except.bind] at h
    split at h
    · cases h
    · rename_i keys hfind
      split at h
      · cases h
      · rename_i text hdecode
        split at h
        · cases h
        · rename_i found hclaims
          cases h
          obtain ⟨payload, hsigned, hreads⟩ := signedClaims?_eq_some_iff.mp hclaims
          exact ⟨payload, carries_iff.mpr ⟨e, keys, text, hparse, hfind,
            Text.Utf8.decode?_eq_some_iff.mp hdecode, hsigned⟩, hreads⟩

/-- **A token opens** exactly when it carries a payload that reads as claims. -/
theorem openToken_eq_ok_iff :
    ring.openToken token = .ok claims ↔
      ∃ payload, ring.Carries token payload ∧ Reads TokenClaims.decoder payload claims := by
  constructor
  · exact carries_of_openToken
  · rintro ⟨payload, hcarries, hreads⟩
    obtain ⟨text, hsigned, hopen⟩ := exists_of_carries hcarries
    rw [hopen, signedClaims?_eq_some_iff.mpr ⟨payload, hsigned, hreads⟩]
    rfl

/-- A token whose payload does not read as claims is refused like one with a wrong signature. -/
theorem openToken_of_unreadable (hcarries : ring.Carries token payload)
    (hreads : ∀ claims, ¬ Reads TokenClaims.decoder payload claims) :
    ring.openToken token = .error (.invalid .signature) := by
  obtain ⟨text, ⟨signer, -, hsigned⟩, hopen⟩ := exists_of_carries hcarries
  have hnone : ring.signedClaims? text = none := by
    refine Option.eq_none_iff_forall_ne_some.mpr ?_
    intro claims hclaims
    obtain ⟨payload', ⟨signer', -, hsigned'⟩, hreads'⟩ := signedClaims?_eq_some_iff.mp hclaims
    rw [← hsigned.payload_unique hsigned'] at hreads'
    exact hreads claims hreads'
  rw [hopen, hnone]
  rfl

/-- What does not open is invalid, whatever the time. -/
theorem openToken_error {r : TokenRejection} (h : ring.openToken token = .error r) :
    ∃ step, r = .invalid step := by
  rw [openToken] at h
  cases hparse : Envelope.parse token with
  | error r' =>
    rw [hparse] at h
    cases h
    exact Envelope.parse_error hparse
  | ok e =>
    rw [hparse] at h
    dsimp only [bind, Except.bind] at h
    repeat' split at h
    all_goals cases h
    all_goals exact ⟨_, rfl⟩

/-! ## 4. Sealing -/

/-- The web token of a payload, signed with a shared key. -/
def signedText (key payload : List UInt8) : List Char :=
  let unsigned :=
    encodeUrl (Text.Utf8.bytes Header.sharedKeyText) ++ '.' :: encodeUrl payload
  unsigned ++ '.' :: encodeUrl (Cipher.Hmac.tag key (Utf8.encode unsigned))

/-- A payload signed and sealed with the primary set, from an initial counter. -/
def sealBytes (ring : KeyRing) (iv payload : List UInt8) : String :=
  let keys := ring.primary
  let ciphertext := Cipher.CounterMode.apply keys.encryptionKey iv
    (Utf8.encode (signedText keys.signatureKey payload))
  Envelope.write { tag := keys.tag iv ciphertext, iv, ciphertext }

theorem sealClaims_eq (ring : KeyRing) (iv : List UInt8) (claims : TokenClaims) :
    ring.sealClaims iv claims = ring.sealBytes iv (Utf8.encode claims.toJson.write) := rfl

theorem signedText_spec (key payload : List UInt8) :
    SignedText key (signedText key payload) payload :=
  .intro _ { algorithm := .hs256 } Header.decodeBytes?_sharedKeyText rfl rfl

theorem encode_signedText_ne_nil (key payload : List UInt8) :
    Utf8.encode (signedText key payload) ≠ [] := by
  rw [signedText, Text.Utf8.encode_append, Text.Utf8.encode_cons,
    Text.Utf8.utf8EncodeChar_of_lt (show ('.').toNat < 0x80 by decide)]
  simp

/-- The envelope in which a set hides a payload, from an initial counter. -/
def envelopeOf (keys : KeySet) (iv payload : List UInt8) : Envelope :=
  let ciphertext := Cipher.CounterMode.apply keys.encryptionKey iv
    (Utf8.encode (signedText keys.signatureKey payload))
  { tag := keys.tag iv ciphertext, iv, ciphertext }

theorem sealBytes_eq (ring : KeyRing) (iv payload : List UInt8) :
    ring.sealBytes iv payload = (envelopeOf ring.primary iv payload).write := rfl

theorem fits_envelopeOf (keys : KeySet) (iv payload : List UInt8) :
    keys.fits (envelopeOf keys iv payload) = true :=
  fits_iff.mpr rfl

theorem decrypt_envelopeOf (keys : KeySet) (iv payload : List UInt8) :
    keys.decrypt (envelopeOf keys iv payload) = Utf8.encode (signedText keys.signatureKey payload) :=
  Cipher.CounterMode.apply_apply _ _ _

theorem parse_envelopeOf (keys : KeySet) {iv : List UInt8} (hiv : iv.length = 16)
    (payload : List UInt8) :
    Envelope.parse (envelopeOf keys iv payload).write = .ok (envelopeOf keys iv payload) := by
  refine Envelope.parse_write (Cipher.Hmac.length_tag _ _) hiv ?_
  rw [envelopeOf, ← List.length_pos_iff, Cipher.CounterMode.length_apply]
  exact List.length_pos_iff.mpr (encode_signedText_ne_nil _ _)

/-- **What is sealed carries what was sealed.** -/
theorem carries_sealBytes (ring : KeyRing) {iv : List UInt8} (hiv : iv.length = 16)
    (payload : List UInt8) : ring.Carries (ring.sealBytes iv payload) payload := by
  have hfind : ring.sets.find? (·.fits (envelopeOf ring.primary iv payload)) = some ring.primary :=
    List.find?_cons_of_pos (fits_envelopeOf ring.primary iv payload)
  exact carries_iff.mpr ⟨_, _, _, parse_envelopeOf ring.primary hiv payload, hfind,
    decrypt_envelopeOf ring.primary iv payload, ring.primary, List.mem_cons_self,
    signedText_spec _ _⟩

end KeyRing

end LoginGate
